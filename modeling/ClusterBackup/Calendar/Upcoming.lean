import ClusterBackup.Calendar.Reader
import ClusterBackup.Time.Instant

/-! The next time of a calendar expression.

The search goes through years, months, days, hours, minutes and seconds. Each unit
has a lower bound from the start of the search until it has been used once; a unit
whose bound is not among its numbers releases the bounds of all smaller units. The
bounds are taken in the first year that is searched, whatever that year is. -/

set_option autoImplicit false

namespace ClusterBackup.Calendar

/-- Lower bounds that have not been used yet. -/
structure Bounds where
  month : Option Nat
  day : Option Nat
  hour : Option Nat
  minute : Option Nat
  second : Option Nat
  deriving DecidableEq, Repr

namespace Bounds

def fromSecond (b : Bounds) : Bounds := { b with second := none }

def fromMinute (b : Bounds) : Bounds := { b with minute := none, second := none }

def fromHour (b : Bounds) : Bounds := { b.fromMinute with hour := none }

def fromDay (b : Bounds) : Bounds := { b.fromHour with day := none }

def fromMonth (b : Bounds) : Bounds := { b.fromDay with month := none }

end Bounds

/-- The outcome of one candidate: a result, or what remains of the bounds. -/
abbrev Search := Bounds → Option Instant × Bounds

/-- Tries candidates in order until one gives a result. -/
def firstOf (candidates : List Nat) (try' : Nat → Search) : Search := fun bounds =>
  match candidates with
  | [] => (none, bounds)
  | n :: rest =>
    match try' n bounds with
    | (some found, bounds) => (some found, bounds)
    | (none, bounds) => firstOf rest try' bounds

def from' (lower : Nat) (numbers : List Nat) : List Nat := numbers.filter (lower ≤ ·)

namespace Expression

variable (e : Expression)

def inMinute (at' : Nat → Instant) : Search := fun bounds =>
  let lower := bounds.second.getD 0
  let bounds := bounds.fromSecond
  match from' lower e.seconds with
  | second :: _ => (some (at' second), bounds)
  | [] => (none, bounds.fromMinute)

def inHour (at' : Nat → Nat → Instant) : Search := fun bounds =>
  let lower := bounds.minute.getD 0
  let bounds := { bounds with minute := none }
  let bounds := if e.minutes.contains lower then bounds else bounds.fromMinute
  let (found, bounds) := firstOf (from' lower e.minutes) (fun minute => e.inMinute (at' minute)) bounds
  (found, bounds.fromHour)

def inDay (date : Date) : Search := fun bounds =>
  let lower := bounds.hour.getD 0
  let bounds := { bounds with hour := none }
  let bounds := if e.hours.contains lower then bounds else bounds.fromHour
  let at' (hour minute second : Nat) := Instant.ofDateTime date ⟨hour, minute, second⟩
  let (found, bounds) := firstOf (from' lower e.hours) (fun hour => e.inHour (at' hour)) bounds
  if found.isSome && ! e.daysOfWeek.contains date.weekday then (none, bounds.fromHour)
  else (found, bounds.fromDay)

def inMonth (year : Nat) (month : Nat) : Search := fun bounds =>
  let last := Date.daysInMonth year month
  let lower := bounds.day.getD 1
  let bounds := { bounds with day := none }
  let bounds := if e.daysOfMonth.contains lower then bounds else bounds.fromDay
  let days := (from' (min lower last) e.daysOfMonth).filter (· ≤ last)
  let (found, bounds) := firstOf days (fun day => e.inDay ⟨year, month, day⟩) bounds
  (found, bounds.fromMonth)

def inYear (year : Nat) : Search := fun bounds =>
  let lower := bounds.month.getD 1
  let bounds := { bounds with month := none }
  let bounds := if e.months.contains lower then bounds else bounds.fromMonth
  firstOf (from' lower e.months) (e.inMonth year) bounds

/-- The first time after an instant. The search starts one second later. -/
def next? (after : Instant) : Option Instant :=
  let start := after.advance (Duration.ofSeconds 1)
  let date := start.date
  let time := start.timeOfDay
  let years := e.years.filter fun (year : Nat) => date.year ≤ (year : Int) ∧ 0 ≤ date.year
  (firstOf years e.inYear
    ⟨some date.month, some date.day, some time.hour, some time.minute, some time.second⟩).1

end Expression

end ClusterBackup.Calendar
