import ClusterBackup.Calendar.Upcoming
import ClusterBackup.Failure
import ClusterBackup.Time.DurationText

/-! Schedules: a fixed interval, or a calendar expression.

Expressions of five fields are in the classic form, without seconds and with 0 and 7
for Sunday; they are rewritten to the six-field form before they are read. -/

set_option autoImplicit false

namespace ClusterBackup

open Number

inductive Schedule where
  | every (interval : Duration)
  | calendar (source : String) (expression : Calendar.Expression)
  deriving DecidableEq, Repr

namespace Schedule

def classicDay? (s : String) : Except String Nat :=
  match natBelow? 8 s with
  | some day => .ok day
  | none => .error ("day-of-week " ++ Text.quote s ++ " out of range 0-7")

/-- From 0, Sunday, to 1, Sunday; the classic 7 is Sunday as well. -/
def shiftDay (day : Nat) : Nat := if day = 0 ∨ day = 7 then 1 else day + 1

def isBareStar (s : String) : Bool := s == "*" || s == "?"

/-- The step of an item, if it has one, and what stands before it. -/
def splitStep (item : String) : Except String (String × Option Nat) :=
  match Text.cutChar '/' item with
  | none => .ok (item, none)
  | some (base, step) =>
    match natBelow? limit32 step with
    | none => .error ("invalid day-of-week step in " ++ Text.quote item)
    | some 0 => .error ("zero day-of-week step in " ++ Text.quote item)
    | some n => .ok (base, some n)

/-- The first and last classic day of an item. With a step a single day runs to Saturday. -/
def dayBounds (base : String) (step : Option Nat) : Except String (Nat × Nat) :=
  match Text.cutChar '-' base with
  | some (first, last) => do return (← classicDay? first, ← classicDay? last)
  | none =>
    if isBareStar base then .ok (0, 6)
    else do
      let day ← classicDay? base
      return (day, if step.isSome then max 6 day else day)

def shiftedDays (item : String) : Except String (List Nat) := do
  let (base, step) ← splitStep item
  let (first, last) ← dayBounds base step
  if last < first then throw ("day-of-week range " ++ Text.quote base ++ " runs backwards")
  let days := (Calendar.everyNth (step.getD 1) (Calendar.Range.between first last)).map shiftDay
  return Calendar.daysOfWeek.all.filter (days.contains ·)

/-- Items with letters and bare stars mean the same in both forms and stay. -/
def shiftItem (item : String) : Except String (List String) :=
  if item.toList.any Char.isAlpha || isBareStar item then .ok [item]
  else do return (← shiftedDays item).map textOf

def shiftDaysOfWeek (field : String) : Except String String := do
  return Text.join "," (← (Text.splitChar ',' field).mapM shiftItem).flatten

/-- The six-field form of a five-field expression; other expressions stay as they are. -/
def normalize (expression : String) : Except String String :=
  match Text.words expression with
  | [minute, hour, day, month, weekday] => do
    return Text.join " " ["0", minute, hour, day, month, ← shiftDaysOfWeek weekday]
  | _ => .ok expression

def parseTrimmed (expression : String) : Except String Schedule :=
  match Text.after? "@every" expression with
  | some rest =>
    match Duration.parse rest with
    | .error error => .error ("validation error: " ++ error.message rest)
    | .ok interval =>
      if interval.isZero then .error "interval must be positive" else .ok (.every interval)
  | none => do
    let source ← normalize expression
    match Calendar.parse source with
    | some parsed => return .calendar source parsed
    | none => throw "Invalid expression: Invalid cron expression."

/-- The error names the expression as it was given. -/
def parse (expression : String) : Except Failure Schedule :=
  (parseTrimmed (Text.trim expression)).mapError (.invalidSchedule expression)

def nextAfter? (schedule : Schedule) (after : Instant) : Option Instant :=
  match schedule with
  | .every interval => after.after? interval
  | .calendar _ expression => expression.next? after

/-- Successive times to fire, at most `count`; with an empty entry where there is none. -/
def upcoming (schedule : Schedule) (after : Instant) : Nat → List (Option Instant)
  | 0 => []
  | count + 1 =>
    match schedule.nextAfter? after with
    | none => [none]
    | some time => some time :: schedule.upcoming time count

end Schedule

end ClusterBackup
