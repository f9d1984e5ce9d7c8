/-! Cutting text into pieces: trimming, splitting at a character, words and lines.

Everything is defined on lists of characters; the versions on strings are the
same functions between `toList` and `ofList`. -/

set_option autoImplicit false

namespace ClusterBackup.Text

/-- The characters with the Unicode property White_Space. -/
def isBlank (c : Char) : Bool :=
  let n := c.toNat
  (0x09 ≤ n && n ≤ 0x0D) || n == 0x20 || n == 0x85 || n == 0xA0 || n == 0x1680
    || (0x2000 ≤ n && n ≤ 0x200A) || n == 0x2028 || n == 0x2029 || n == 0x202F
    || n == 0x205F || n == 0x3000

def dropRightWhile (p : Char → Bool) (cs : List Char) : List Char :=
  (cs.reverse.dropWhile p).reverse

def trimWhile (p : Char → Bool) (cs : List Char) : List Char :=
  dropRightWhile p (cs.dropWhile p)

/-- Pieces between occurrences of a separator; never empty. -/
def splitAt (separator : Char) : List Char → List (List Char)
  | [] => [[]]
  | c :: rest =>
    if c = separator then [] :: splitAt separator rest
    else match splitAt separator rest with
      | [] => [[c]]
      | piece :: pieces => (c :: piece) :: pieces

/-- What stands before and after the first separator, if there is one. -/
def cutAt (separator : Char) : List Char → Option (List Char × List Char)
  | [] => none
  | c :: rest =>
    if c = separator then some ([], rest)
    else (cutAt separator rest).map fun (before, after) => (c :: before, after)

def wordsOf (cs : List Char) : List (List Char) :=
  (cs.foldr
    (fun c (pieces : List (List Char)) =>
      if isBlank c then [] :: pieces
      else match pieces with
        | [] => [[c]]
        | piece :: others => (c :: piece) :: others)
    [[]]).filter (! ·.isEmpty)

/-- Lines end at a line feed; a carriage return before it belongs to the end of
the line, and text after the last line feed is a line only if it is not empty. -/
def linesOf (cs : List Char) : List (List Char) :=
  let pieces := splitAt '\n' cs
  let ended := pieces.dropLast.map fun line =>
    if line.getLast? = some '\r' then line.dropLast else line
  match pieces.getLast? with
  | some [] | none => ended
  | some line => ended ++ [line]

def joinWith (separator : List Char) : List (List Char) → List Char
  | [] => []
  | [piece] => piece
  | piece :: pieces => piece ++ separator ++ joinWith separator pieces

def onChars (f : List Char → List Char) (s : String) : String :=
  String.ofList (f s.toList)

def trim (s : String) : String :=
  onChars (trimWhile isBlank) s

def trimChar (c : Char) (s : String) : String :=
  onChars (trimWhile (· = c)) s

def trimRightChar (c : Char) (s : String) : String :=
  onChars (dropRightWhile (· = c)) s

def words (s : String) : List String :=
  (wordsOf s.toList).map String.ofList

def lines (s : String) : List String :=
  (linesOf s.toList).map String.ofList

def splitChar (separator : Char) (s : String) : List String :=
  (splitAt separator s.toList).map String.ofList

def cutChar (separator : Char) (s : String) : Option (String × String) :=
  (cutAt separator s.toList).map fun (before, after) => (String.ofList before, String.ofList after)

/-- The rest of a text that begins with the given one. -/
def after? (start s : String) : Option String :=
  if start.toList.isPrefixOf s.toList then some (String.ofList (s.toList.drop start.toList.length))
  else none

def join (separator : String) (pieces : List String) : String :=
  String.ofList (joinWith separator.toList (pieces.map String.toList))

def replaceChar (old new : Char) (s : String) : String :=
  onChars (·.map fun c => if c = old then new else c) s

/-- ASCII letters to lower case; all other characters stay. -/
def lowerAscii (s : String) : String :=
  onChars (·.map Char.toLower) s

end ClusterBackup.Text
