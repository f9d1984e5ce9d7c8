import ClusterBackup.Text.Scan

/-! Paths of files, as text with slashes. -/

set_option autoImplicit false

namespace ClusterBackup.Path

/-- A path below a base; an absolute path stands for itself. -/
def join (base path : String) : String :=
  if path.toList.head? = some '/' ∨ base = "" then path
  else if base.toList.getLast? = some '/' then base ++ path
  else base ++ "/" ++ path

/-- Segments without slashes around them, and without empty ones. -/
def segments (parts : List String) : String :=
  Text.join "/" ((parts.map (Text.trimChar '/')).filter (· ≠ ""))

/-- The last segment, from the back, and what is before it without its slash. -/
def cutLast (reversed : List Char) : List Char × List Char :=
  (reversed.takeWhile (· ≠ '/'), (reversed.dropWhile (· ≠ '/')).drop 1)

def isVoid (segment : List Char) : Bool := segment == [] || segment == ['.']

/-- Drops segments from the back that name nothing. The first number bounds the segments. -/
def dropVoid : Nat → List Char → List Char
  | 0, reversed => reversed
  | bound + 1, reversed =>
    if reversed = [] then []
    else
      let (last, before) := cutLast reversed
      if isVoid last then dropVoid bound before else reversed

/-- The root, or the leading dot, of a path. -/
def head : List Char → List Char
  | '/' :: _ => ['/']
  | ['.'] => ['.']
  | '.' :: '/' :: _ => ['.']
  | _ => []

/-- The directory that a path is in. The root and the empty path are in none. -/
def parent? (s : String) : Option String :=
  let cs := s.toList
  let start := head cs
  let body := dropVoid cs.length (cs.drop start.length).reverse
  if body.isEmpty then if start = ['.'] then some "" else none
  else some (String.ofList (start ++ (dropVoid cs.length (cutLast body).2).reverse))

end ClusterBackup.Path
