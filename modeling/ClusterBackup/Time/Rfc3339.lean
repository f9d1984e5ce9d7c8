import ClusterBackup.Number.Digits
import ClusterBackup.Number.Limits
import ClusterBackup.Text.Scan
import ClusterBackup.Time.Instant

/-! Instants as text: dates and times with an offset from UTC.

Writing gives UTC with the letter Z. Reading takes any offset, fields with fewer
digits, blanks around the separators, a blank or a small t between date and
time, and second 60. -/

set_option autoImplicit false

namespace ClusterBackup

open Number Text

namespace Instant

def yearText (year : Int) : List Char :=
  if 0 ≤ year ∧ year ≤ 9999 then padded 4 year.toNat
  else (if year < 0 then '-' else '+') :: padded 4 year.natAbs

/-- Fractions have three, six or nine digits, the fewest that are exact. -/
def fractionText (nanos : Nat) : List Char :=
  if nanos = 0 then []
  else if nanos % 1000000 = 0 then '.' :: padded 3 (nanos / 1000000)
  else if nanos % 1000 = 0 then '.' :: padded 6 (nanos / 1000)
  else '.' :: padded 9 nanos

/-- The time of day as it is written: a leap second is second 60. -/
def writtenSecond (t : Instant) : Nat :=
  t.timeOfDay.second + t.nanos / 1000000000

def textWith (t : Instant) (fraction : List Char) : String :=
  let date := t.date
  let time := t.timeOfDay
  String.ofList <|
    yearText date.year ++ ['-'] ++ padded 2 date.month ++ ['-'] ++ padded 2 date.day ++ ['T']
      ++ padded 2 time.hour ++ [':'] ++ padded 2 time.minute ++ [':'] ++ padded 2 t.writtenSecond
      ++ fraction ++ ['Z']

def text (t : Instant) : String := t.textWith (fractionText (t.nanos % 1000000000))

/-- The same without a fraction. -/
def textInSeconds (t : Instant) : String := t.textWith []

def stamp (t : Instant) : String :=
  let date := t.date
  let time := t.timeOfDay
  String.ofList <|
    yearText date.year ++ ['-'] ++ padded 2 date.month ++ ['-'] ++ padded 2 date.day ++ ['t']
      ++ padded 2 time.hour ++ ['-'] ++ padded 2 time.minute ++ ['-'] ++ padded 2 t.writtenSecond

/-- Why a text is no instant. -/
inductive Unreadable where
  | tooShort
  | tooLong
  | invalid
  | outOfRange
  | impossible
  deriving DecidableEq, Repr

def Unreadable.describe : Unreadable → String
  | .tooShort => "premature end of input"
  | .tooLong => "trailing input"
  | .invalid => "input contains invalid characters"
  | .outOfRange => "input is out of range"
  | .impossible => "no possible date and time matching input"

abbrev Parse (α : Type) := List Char → Except Unreadable (α × List Char)

def skipBlanks (cs : List Char) : List Char := cs.dropWhile isBlank

/-- A number of one digit or more, at most `width` of them. -/
def numberUpTo (width : Nat) : Parse Nat := fun cs =>
  let digits := (cs.take width).takeWhile isDigit
  if cs = [] then .error .tooShort
  else if digits = [] then .error .invalid
  else .ok (valueOf digits, cs.drop digits.length)

/-- A number of up to two digits from a range, after blanks. -/
def field (low high : Nat) : Parse Nat := fun cs => do
  let (n, rest) ← numberUpTo 2 (skipBlanks cs)
  if low ≤ n ∧ n ≤ high then return (n, rest) else .error .outOfRange

/-- Years have up to four digits, or any number of digits after a sign. -/
def yearField : Parse Int := fun cs => do
  let (year, rest) ← match skipBlanks cs with
    | '-' :: rest => (numberUpTo rest.length rest).map fun (n, rest) => (- Int.ofNat n, rest)
    | '+' :: rest => (numberUpTo rest.length rest).map fun (n, rest) => (Int.ofNat n, rest)
    | cs => (numberUpTo 4 cs).map fun (n, rest) => (Int.ofNat n, rest)
  if least32 ≤ year ∧ year ≤ greatest32 then return (year, rest) else .error .outOfRange

def separator (c : Char) : Parse Unit := fun cs =>
  match skipBlanks cs with
  | d :: rest => if d = c then .ok ((), rest) else .error .invalid
  | [] => .error .tooShort

/-- What stands between date and time. -/
def dateEnd : Parse Unit
  | 'T' :: rest | 't' :: rest | ' ' :: rest => .ok ((), rest)
  | _ :: _ => .error .invalid
  | [] => .error .tooShort

/-- Up to nine digits of a fraction count, and all are read. -/
def fractionField : Parse Nat := fun cs =>
  match cs with
  | '.' :: rest => do
    let (n, others) ← numberUpTo 9 rest
    return (n * Nat.pow 10 (9 - (rest.length - others.length)), others.dropWhile isDigit)
  | cs => .ok (0, cs)

/-- Two digits. A character outside ASCII is as long as two of them. -/
def twoDigits (high : Nat) : Parse Nat
  | a :: b :: rest =>
    if isDigit a && isDigit b then
      if valueOf [a, b] ≤ high then .ok (valueOf [a, b], rest) else .error .outOfRange
    else .error .invalid
  | [c] => .error (if c.utf8Size = 1 then .tooShort else .invalid)
  | [] => .error .tooShort

def hoursAndMinutes (sign : Int) : Parse Int := fun cs => do
  let (hours, rest) ← twoDigits 99 cs
  let (minutes, rest) ← twoDigits 59 (rest.dropWhile fun c => c = ':' ∨ isBlank c)
  return (sign * ((hours * 60 + minutes) * 60 : Nat), rest)

/-- Seconds east of UTC. -/
def offsetField : Parse Int := fun cs =>
  match skipBlanks cs with
  | 'Z' :: rest | 'z' :: rest => .ok (0, rest)
  | '+' :: rest => hoursAndMinutes 1 rest
  | '-' :: rest | '\u2212' :: rest => hoursAndMinutes (-1) rest
  | u :: t :: c :: rest =>
    if [u, t, c].map Char.toUpper = ['U', 'T', 'C'] then .ok (0, rest) else .error .invalid
  | _ :: _ => .error .invalid
  | [] => .error .tooShort

def read (s : String) : Except Unreadable Instant := do
  let (year, cs) ← yearField s.toList
  let ((), cs) ← separator '-' cs
  let (month, cs) ← field 1 12 cs
  let ((), cs) ← separator '-' cs
  let (day, cs) ← field 1 31 cs
  let ((), cs) ← dateEnd cs
  let (hour, cs) ← field 0 23 cs
  let ((), cs) ← separator ':' cs
  let (minute, cs) ← field 0 59 cs
  let ((), cs) ← separator ':' cs
  let (second, cs) ← field 0 60 cs
  let (nanos, cs) ← fractionField cs
  let (offset, cs) ← offsetField cs
  if ! (skipBlanks cs).isEmpty then .error .tooLong
  else match Date.valid? year month day with
    | none => .error .outOfRange
    | some date =>
      if 86400 ≤ offset.natAbs then .error .outOfRange
      else
        let leap := if second = 60 then 1000000000 else 0
        let local' := ofDateTime date ⟨hour, minute, min second 59⟩
        let t : Instant := ⟨local'.seconds - offset, nanos + leap⟩
        if Date.yearsInRange t.date.year then .ok t else .error .impossible

def parse (s : String) : Option Instant := (read s).toOption

end Instant

end ClusterBackup
