import ClusterBackup.Number.Fixed

/-! Lengths of time in whole nanoseconds, and their conversion to and from floating
point seconds. -/

set_option autoImplicit false

namespace ClusterBackup

open Number

structure Duration where
  nanos : Nat
  deriving DecidableEq, Repr, Inhabited

namespace Duration

def zero : Duration := ⟨0⟩

def ofSeconds (n : Nat) : Duration := ⟨n * 1000000000⟩

def ofMillis (n : Nat) : Duration := ⟨n * 1000000⟩

def isZero (d : Duration) : Bool := d.nanos == 0

def seconds (d : Duration) : Nat := d.nanos / 1000000000

def subsecond (d : Duration) : Nat := d.nanos % 1000000000

/-- Durations have 64 bits for their whole seconds. -/
def IsRepresentable (d : Duration) : Prop := d.nanos < limit64 * 1000000000

instance (d : Duration) : Decidable d.IsRepresentable :=
  inferInstanceAs (Decidable (d.nanos < limit64 * 1000000000))

def add (a b : Duration) : Duration := ⟨a.nanos + b.nanos⟩

instance : Add Duration := ⟨add⟩

def checked (d : Duration) : Option Duration :=
  if d.IsRepresentable then some d else none

theorem checked_eq_some_iff {d e : Duration} : d.checked = some e ↔ e = d ∧ d.IsRepresentable := by
  unfold checked
  split
  · rename_i fits
    exact ⟨fun same => ⟨(Option.some.inj same).symm, fits⟩, fun ⟨same, _⟩ => congrArg some same.symm⟩
  · rename_i large
    exact ⟨nofun, fun ⟨_, fits⟩ => absurd fits large⟩

theorem IsRepresentable.of_le {d e : Duration} (fits : e.IsRepresentable) (le : d.nanos ≤ e.nanos) :
    d.IsRepresentable :=
  Nat.lt_of_le_of_lt le fits

def minimum (a b : Duration) : Duration := ⟨min a.nanos b.nanos⟩

def times (d : Duration) (n : Nat) : Duration := ⟨d.nanos * n⟩

/-- Whole seconds and the rest are converted separately and then added, so there
are up to three roundings. -/
def toFloating (d : Duration) : Option Binary64 := do
  let whole ← Binary64.ofNat d.seconds
  let rest ← Binary64.ofNat d.subsecond
  let billion ← Binary64.ofNat 1000000000
  whole.add (← rest.div billion)

/-- The nearest duration to a number of seconds, if it is representable. -/
def ofFloating (x : Binary64) : Option Duration :=
  checked ⟨roundQuotient (x.numerator * 1000000000) x.denominator⟩

/-- A decimal number of a unit, with as few fraction digits as are exact. -/
def decimal (whole fraction places : Nat) : List Char :=
  let digits := (padded places fraction).reverse.dropWhile (· = '0') |>.reverse
  digitsOf whole ++ if fraction = 0 then [] else '.' :: digits

/-- One number in the largest unit that gives at least one, seconds being the largest unit. -/
def describe (d : Duration) : String :=
  String.ofList <|
    if 0 < d.seconds then decimal d.seconds d.subsecond 9 ++ ['s']
    else if 1000000 ≤ d.nanos then decimal (d.nanos / 1000000) (d.nanos % 1000000) 6 ++ ['m', 's']
    else if 1000 ≤ d.nanos then decimal (d.nanos / 1000) (d.nanos % 1000) 3 ++ ['µ', 's']
    else digitsOf d.nanos ++ ['n', 's']

/-- A number of nanoseconds in a unit of so many of them, in floating point. -/
def inUnit (d : Duration) (unit : Nat) : Option Binary64 := do
  (← Binary64.ofNat d.nanos).div (← Binary64.ofNat unit)

def belowMinute (d : Duration) : Duration := ⟨d.seconds % 60 * 1000000000 + d.subsecond⟩

/-- Hours, minutes and seconds, as statuses show them; below a second one number in the largest
unit that gives at least one. Fractions go through floating point. -/
def text (d : Duration) : String :=
  String.ofList <|
    if d.nanos = 0 then ['0', 's']
    else if d.nanos < 1000 then digitsOf d.nanos ++ ['n', 's']
    else if d.nanos < 1000000 then Binary64.brief 3 (d.inUnit 1000) ++ ['µ', 's']
    else if d.nanos < 1000000000 then Binary64.brief 6 (d.inUnit 1000000) ++ ['m', 's']
    else
      let seconds := Binary64.brief 9 d.belowMinute.toFloating ++ ['s']
      let minutes := digitsOf (d.seconds % 3600 / 60) ++ ['m']
      if d.seconds < 60 then seconds
      else if d.seconds < 3600 then minutes ++ seconds
      else digitsOf (d.seconds / 3600) ++ ['h'] ++ minutes ++ seconds

end Duration

end ClusterBackup
