import ClusterBackup.Time.Calendar
import ClusterBackup.Time.Duration

/-! Points in time: seconds since 1970-01-01T00:00:00Z and nanoseconds. A second
with a billion nanoseconds or more is a leap second, written as second 60. -/

set_option autoImplicit false

namespace ClusterBackup

structure Instant where
  seconds : Int
  nanos : Nat
  deriving DecidableEq, Repr, Inhabited

structure TimeOfDay where
  hour : Nat
  minute : Nat
  second : Nat
  deriving DecidableEq, Repr

namespace Instant

def date (t : Instant) : Date := Date.ofDays (t.seconds / 86400)

def timeOfDay (t : Instant) : TimeOfDay :=
  let n := (t.seconds % 86400).toNat
  ⟨n / 3600, n / 60 % 60, n % 60⟩

def ofDateTime (date : Date) (time : TimeOfDay) : Instant :=
  ⟨date.toDays * 86400 + ((time.hour * 60 + time.minute) * 60 + time.second : Nat), 0⟩

def isLeapSecond (t : Instant) : Bool := 1000000000 ≤ t.nanos

/-- Moves forward. A leap second that is left counts as the second it repeats. -/
def advance (t : Instant) (d : Duration) : Instant :=
  let staying : Bool := t.isLeapSecond && d.seconds == 0 && t.nanos + d.subsecond < 2000000000
  if staying then ⟨t.seconds, t.nanos + d.subsecond⟩
  else
    let nanos := t.nanos % 1000000000 + d.subsecond
    ⟨t.seconds + d.seconds + (nanos / 1000000000 : Nat), nanos % 1000000000⟩

/-- The instant some time later, where its year is in range. -/
def after? (t : Instant) (d : Duration) : Option Instant :=
  let later := t.advance d
  if Date.yearsInRange later.date.year then some later else none

/-- The time from one instant to a later one; nothing if it is not later. -/
def timeTo (t later : Instant) : Duration :=
  ⟨((later.seconds - t.seconds) * 1000000000 + (later.nanos : Int) - (t.nanos : Int)).toNat⟩

def le (a b : Instant) : Bool :=
  a.seconds < b.seconds || (a.seconds == b.seconds && a.nanos ≤ b.nanos)

end Instant

end ClusterBackup
