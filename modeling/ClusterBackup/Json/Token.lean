import ClusterBackup.Json.Numeral

/-! The pieces of JSON text: blanks, fixed words, strings, and what stands between the members
of an object and the elements of a list. Strings have no control characters and no halves of
surrogate pairs. -/

set_option autoImplicit false

namespace ClusterBackup.Json

open Number

def skipBlanks : List Char → List Char :=
  List.dropWhile fun c => c == ' ' || c == '\n' || c == '\t' || c == '\r'

def word (value : Json) : List Char → List Char → Placed (Found Json)
  | [], cs => .ok (value, cs)
  | _ :: _, [] => failAt .endInValue []
  | expected :: more, c :: cs =>
    if c = expected then word value more cs else failIn .noIdentifier (c :: cs)

/-! ### Strings -/

def fourHex (cs : List Char) : Placed (Found Nat) :=
  match (cs.take 4).mapM hexValue? with
  | some [a, b, c, d] => .ok (((a * 16 + b) * 16 + c) * 16 + d, cs.drop 4)
  | _ =>
    if byteCount cs < 4 then failAt .endInString []
    else .error { fault := .badEscape, rest := cs, further := 4 }

/-- The second half of a pair, which the first one needs. -/
def lowHalf (cs : List Char) : Placed (Found Nat) :=
  match cs with
  | [] => failAt .endInString []
  | '\\' :: rest =>
    match rest with
    | [] => failAt .endInString []
    | 'u' :: rest => do
      let (low, rest) ← fourHex rest
      if 0xDC00 ≤ low ∧ low ≤ 0xDFFF then return (low, rest) else failAt .loneSurrogate rest
    | rest => failIn .endInEscape rest
  | rest => failIn .endInEscape rest

/-- A code unit, or two that form a pair. -/
def unicodeEscape (cs : List Char) : Placed (Found Char) := do
  let (unit, rest) ← fourHex cs
  if 0xDC00 ≤ unit ∧ unit ≤ 0xDFFF then failAt .loneSurrogate rest
  else if 0xD800 ≤ unit ∧ unit ≤ 0xDBFF then
    let (low, rest) ← lowHalf rest
    return (Char.ofNat (0x10000 + (unit - 0xD800) * 0x400 + (low - 0xDC00)), rest)
  else return (Char.ofNat unit, rest)

/-- The character that a letter after a backslash stands for. -/
def escaped? : Char → Option Char
  | '"' => some '"'
  | '\\' => some '\\'
  | '/' => some '/'
  | 'b' => some '\x08'
  | 'f' => some '\x0c'
  | 'n' => some '\n'
  | 'r' => some '\r'
  | 't' => some '\t'
  | _ => none

/-- The rest of a string, after its opening quote. The bound is the length of the text. -/
def stringRest : Nat → List Char → List Char → Placed (Found String)
  | 0, _, cs => failAt .endInString cs
  | bound + 1, done, cs =>
    match cs with
    | [] => failAt .endInString []
    | '"' :: rest => .ok (String.ofList done.reverse, rest)
    | '\\' :: rest =>
      match rest with
      | [] => failAt .endInString []
      | 'u' :: rest => do
        let (c, rest) ← unicodeEscape rest
        stringRest bound (c :: done) rest
      | e :: rest =>
        match escaped? e with
        | some c => stringRest bound (c :: done) rest
        | none => failIn .badEscape (e :: rest)
    | c :: rest =>
      if c.toNat < 0x20 then failAt .controlCharacter rest else stringRest bound (c :: done) rest

def stringToken (cs : List Char) : Placed (Found String) := stringRest (cs.length + 1) [] cs

/-- Passes over a string without a look at its code units. -/
def skipStringRest : Nat → List Char → Placed (List Char)
  | 0, cs => failAt .endInString cs
  | bound + 1, cs =>
    match cs with
    | [] => failAt .endInString []
    | '"' :: rest => .ok rest
    | '\\' :: rest =>
      match rest with
      | [] => failAt .endInString []
      | 'u' :: rest => do
        let (_, rest) ← fourHex rest
        skipStringRest bound rest
      | e :: rest =>
        if (escaped? e).isSome then skipStringRest bound rest else failIn .badEscape (e :: rest)
    | c :: rest =>
      if c.toNat < 0x20 then failAt .controlCharacter (c :: rest) else skipStringRest bound rest

def skipString (cs : List Char) : Placed (List Char) := skipStringRest (cs.length + 1) cs

/-! ### Between members and elements -/

def colon (cs : List Char) : Placed (List Char) :=
  match skipBlanks cs with
  | ':' :: rest => .ok rest
  | [] => failAt .endInObject []
  | rest => failIn .noColon rest

/-- The text at the quote of the next key, or none before the closing brace. -/
def nextKey (first : Bool) (cs : List Char) : Placed (Option (List Char)) :=
  match skipBlanks cs with
  | [] => failAt .endInObject []
  | '\x7d' :: _ => .ok none
  | '"' :: rest => if first then .ok (some rest) else failIn .noObjectEnd ('"' :: rest)
  | ',' :: rest =>
    if first then failIn .keyNotText (',' :: rest)
    else match skipBlanks rest with
      | '"' :: rest => .ok (some rest)
      | '\x7d' :: rest => failIn .trailingComma ('\x7d' :: rest)
      | [] => failAt .endInValue []
      | rest => failIn .keyNotText rest
  | rest => failIn (if first then .keyNotText else .noObjectEnd) rest

/-- The text at the next element, or none before the closing bracket. -/
def nextElement (first : Bool) (cs : List Char) : Placed (Option (List Char)) :=
  match skipBlanks cs with
  | [] => failAt .endInList []
  | ']' :: _ => .ok none
  | ',' :: rest =>
    if first then .ok (some (',' :: rest))
    else match skipBlanks rest with
      | ']' :: rest => failIn .trailingComma (']' :: rest)
      | [] => failAt .endInValue []
      | rest => .ok (some rest)
  | rest => if first then .ok (some rest) else failIn .noListEnd rest

/-- Reads members one after the other, up to the closing brace. A step begins after a key. -/
def eachMember {α : Type} (step : α → String → List Char → Placed (Found α)) :
    Nat → Bool → α → List Char → Placed (Found α)
  | 0, _, _, cs => failAt .endInObject cs
  | bound + 1, first, a, cs => do
    match ← nextKey first cs with
    | none => return (a, skipBlanks cs)
    | some rest =>
      let (key, rest) ← stringToken rest
      let (a, rest) ← step a key rest
      eachMember step bound false a rest

/-- Reads elements one after the other, up to the closing bracket. -/
def eachElement {α : Type} (step : α → List Char → Placed (Found α)) :
    Nat → Bool → α → List Char → Placed (Found α)
  | 0, _, _, cs => failAt .endInList cs
  | bound + 1, first, a, cs => do
    match ← nextElement first cs with
    | none => return (a, skipBlanks cs)
    | some rest =>
      let (a, rest) ← step a rest
      eachElement step bound false a rest

/-- What is left after an object if its members were given up at a place. -/
def pastObject (cs : List Char) : List Char :=
  match skipBlanks cs with
  | '\x7d' :: rest => rest
  | rest => rest

/-- What is left after a list if its elements were given up at a place. -/
def pastList (cs : List Char) : List Char :=
  match skipBlanks cs with
  | ']' :: rest => rest
  | ',' :: rest => skipBlanks rest
  | rest => rest

def listEnd (cs : List Char) : Placed (List Char) :=
  match skipBlanks cs with
  | ']' :: rest => .ok rest
  | ',' :: rest =>
    match skipBlanks rest with
    | ']' :: rest => failIn .trailingComma (']' :: rest)
    | rest => failIn .trailingCharacters rest
  | [] => failAt .endInList []
  | rest => failIn .trailingCharacters rest

end ClusterBackup.Json
