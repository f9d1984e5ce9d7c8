import ClusterBackup.Calendar.Field
import ClusterBackup.Number.Digits

/-! The text of calendar expressions.

Six or seven fields (seconds, minutes, hours, days of the month, months, days of
the week and, if wanted, years), or one of five shorthands. Numbers, names and
fields may have blanks around them, stars and question marks not. -/

set_option autoImplicit false

namespace ClusterBackup.Calendar

open Number

abbrev Parse (α : Type) := List Char → Option (α × List Char)

def isSpace (c : Char) : Bool := c == ' ' || c == '\t'

def skipSpaces (cs : List Char) : List Char := cs.dropWhile isSpace

def run (p : Char → Bool) : Parse (List Char) := fun cs =>
  let cs := skipSpaces cs
  let found := cs.takeWhile p
  if found = [] then none else some (found, skipSpaces (cs.dropWhile p))

def ordinal : Parse Nat := fun cs => do
  let (digits, rest) ← run isDigit cs
  let n := valueOf digits
  if n < limit32 then some (n, rest) else none

def name : Parse String := fun cs =>
  (run Char.isAlpha cs).map fun (letters, rest) => (String.ofList letters, rest)

def symbol (c : Char) : Parse Unit := fun cs =>
  match cs with
  | d :: rest => if d = c then some ((), rest) else none
  | [] => none

def part (questionMark : Bool) : Parse Part := fun cs =>
  let every (c : Char) : Option (Part × List Char) := do
    let ((), rest) ← symbol c cs
    some (.all, rest)
  let range := do
    let (first, rest) ← ordinal cs
    let ((), rest) ← symbol '-' rest
    let (last, rest) ← ordinal rest
    some (Part.range first last, rest)
  let namedRange := do
    let (first, rest) ← name cs
    let ((), rest) ← symbol '-' rest
    let (last, rest) ← name rest
    some (Part.namedRange first last, rest)
  let point := (ordinal cs).map fun (n, rest) => (Part.point n, rest)
  (if questionMark then every '?' else none) <|> every '*' <|> range <|> namedRange <|> point

def item (questionMark : Bool) : Parse Item := fun cs =>
  let step := do
    let (part, rest) ← part questionMark cs
    let ((), rest) ← symbol '/' rest
    let (n, rest) ← ordinal rest
    some (Item.step part n, rest)
  let plain := (part questionMark cs).map fun (part, rest) => (Item.plain part, rest)
  let named := (name cs).map fun (name, rest) => (Item.named name, rest)
  step <|> plain <|> named

/-- Further items after a comma, at most as many as the bound allows; a comma that no
item follows is left. -/
def moreItems (questionMark : Bool) : Nat → List Char → List Item × List Char
  | 0, cs => ([], cs)
  | bound + 1, cs =>
    let next := do
      let ((), rest) ← symbol ',' cs
      item questionMark rest
    match next with
    | none => ([], cs)
    | some (item, rest) =>
      let (items, rest) := moreItems questionMark bound rest
      (item :: items, rest)

def items (questionMark : Bool) : Parse (List Item) := fun cs => do
  let (first, rest) ← item questionMark (skipSpaces cs)
  let (more, rest) := moreItems questionMark rest.length rest
  some (first :: more, skipSpaces rest)

def field (range : Range) (questionMark : Bool) : Parse (List Nat) := fun cs => do
  let (items, rest) ← items questionMark cs
  some (← numbers? range items, rest)

/-- The numbers that a time must have in each unit. -/
structure Expression where
  seconds : List Nat
  minutes : List Nat
  hours : List Nat
  daysOfMonth : List Nat
  months : List Nat
  daysOfWeek : List Nat
  years : List Nat
  deriving DecidableEq, Repr

def shorthand? (name : String) : Option Expression :=
  let start : Expression := ⟨[0], [0], [0], [1], [1], daysOfWeek.all, years.all⟩
  match name with
  | "@yearly" => some start
  | "@monthly" => some { start with months := months.all }
  | "@weekly" => some { start with
      daysOfMonth := daysOfMonth.all, months := months.all, daysOfWeek := [1] }
  | "@daily" => some { start with daysOfMonth := daysOfMonth.all, months := months.all }
  | "@hourly" => some { start with
      hours := hours.all, daysOfMonth := daysOfMonth.all, months := months.all }
  | _ => none

def longhand? (cs : List Char) : Option Expression := do
  let (seconds, cs) ← field seconds false cs
  let (minutes, cs) ← field minutes false cs
  let (hours, cs) ← field hours false cs
  let (daysOfMonth, cs) ← field daysOfMonth true cs
  let (months, cs) ← field months false cs
  let (daysOfWeek, cs) ← field daysOfWeek true cs
  let (years, cs) := (field years false cs).getD (years.all, cs)
  if cs = [] then some ⟨seconds, minutes, hours, daysOfMonth, months, daysOfWeek, years⟩ else none

def parse (s : String) : Option Expression :=
  shorthand? (Text.onChars (Text.trimWhile isSpace) s) <|> longhand? s.toList

end ClusterBackup.Calendar
