import ClusterBackup.Text.Quoted
import ClusterBackup.Text.Scan
import ClusterBackup.Time.Duration

/-! Durations as people write them: a bare number of seconds, or numbers with units
such as 1h30m and 250ms, added up. -/

set_option autoImplicit false

namespace ClusterBackup

open Number

inductive DurationError where
  | empty
  | missingUnit
  | invalid
  | invalidNumber
  | unknownUnit (unit : String)
  | outOfRange
  deriving DecidableEq, Repr

def DurationError.message (input : String) : DurationError → String
  | .empty => "empty duration"
  | .missingUnit => "missing unit in duration " ++ Text.quote input
  | .invalid => "invalid duration " ++ Text.quote input
  | .invalidNumber => "invalid number in duration " ++ Text.quote input
  | .unknownUnit unit => "unknown unit " ++ Text.quote unit ++ " in duration " ++ Text.quote input
  | .outOfRange => "duration " ++ Text.quote input ++ " is out of range"

namespace Duration

inductive TimeUnit where
  | nanosecond
  | microsecond
  | millisecond
  | second
  | minute
  | hour
  deriving DecidableEq, Repr

def TimeUnit.ofText? : List Char → Option TimeUnit
  | ['n', 's'] => some .nanosecond
  | ['u', 's'] | ['µ', 's'] => some .microsecond
  | ['m', 's'] => some .millisecond
  | ['s'] => some .second
  | ['m'] => some .minute
  | ['h'] => some .hour
  | _ => none

/-- The floating point number of seconds nearest to the unit. -/
def TimeUnit.seconds : TimeUnit → Option Binary64
  | .nanosecond => Binary64.round 1 1000000000
  | .microsecond => Binary64.round 1 1000000
  | .millisecond => Binary64.round 1 1000
  | .second => Binary64.round 1 1
  | .minute => Binary64.round 60 1
  | .hour => Binary64.round 3600 1

def isNumeral (c : Char) : Bool := isDigit c || c == '.'

/-- Digits with at most one point among them, and at least one digit. -/
def numeral? (cs : List Char) : Option (List Char × List Char) :=
  let whole := cs.takeWhile isDigit
  let fraction? := match cs.dropWhile isDigit with
    | [] => some []
    | '.' :: rest => if rest.all isDigit then some rest else none
    | _ => none
  fraction?.bind fun fraction =>
    if whole = [] ∧ fraction = [] then none else some (whole, fraction)

def term (number unit : List Char) : Except DurationError Duration := do
  let some (whole, fraction) := numeral? number | throw .invalidNumber
  let some unit' := TimeUnit.ofText? unit | throw (.unknownUnit (String.ofList unit))
  let product := do
    let value ← Binary64.ofDecimal whole fraction
    value.mul (← unit'.seconds)
  match product.bind ofFloating with
  | some d => .ok d
  | none => throw .outOfRange

theorem length_dropWhile_le {α : Type} (p : α → Bool) (xs : List α) :
    (xs.dropWhile p).length ≤ xs.length :=
  (List.dropWhile_sublist p).length_le

/-- Adds the remaining terms to a sum. A number ends before the first character that
is neither a digit nor a point, a unit before the next digit. -/
def terms (sum : Duration) (cs : List Char) : Except DurationError Duration :=
  if cs = [] then .ok sum
  else if cs.dropWhile isNumeral = [] then .error .missingUnit
  else if _numbered : cs.takeWhile isNumeral = [] then .error .invalid
  else do
    let part ← term (cs.takeWhile isNumeral) ((cs.dropWhile isNumeral).takeWhile (! isDigit ·))
    match (sum + part).checked with
    | none => .error .outOfRange
    | some sum => terms sum ((cs.dropWhile isNumeral).dropWhile (! isDigit ·))
termination_by cs.length
decreasing_by
  have parts := congrArg List.length (List.takeWhile_append_dropWhile (p := isNumeral) (l := cs))
  have positive := List.length_pos_iff.mpr _numbered
  have shorter := length_dropWhile_le (! isDigit ·) (cs.dropWhile isNumeral)
  simp only [List.length_append] at parts
  omega

/-- Blanks around the text do not count. -/
def parse (input : String) : Except DurationError Duration :=
  let s := Text.trim input
  if s.isEmpty then .error .empty
  else match natBelow? limit64 s with
    | some seconds => .ok (ofSeconds seconds)
    | none => terms zero s.toList

end Duration

end ClusterBackup
