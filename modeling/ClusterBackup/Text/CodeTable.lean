import ClusterBackup.Number.Digits
import ClusterBackup.Text.Scan

/-! Tables of code points in ascending order, and their written form: code points
and ranges in hexadecimal, each with the numbers that the table gives it. -/

set_option autoImplicit false

namespace ClusterBackup.Text

open Number

/-- The code points from first to last. -/
structure CodeEntry where
  first : Nat
  last : Nat
  values : List Nat
  deriving DecidableEq, Repr

abbrev CodeTable := Array CodeEntry

namespace CodeTable

/-- The entry for a code point between two places of the table. -/
def entryBetween? (table : CodeTable) (code low high : Nat) (fit : high ≤ table.size) :
    Option CodeEntry :=
  if apart : low < high then
    let middle := (low + high) / 2
    have inside : middle < table.size := by omega
    let entry := table[middle]
    if code < entry.first then entryBetween? table code low middle (by omega)
    else if entry.last < code then entryBetween? table code (middle + 1) high fit
    else some entry
  else none
termination_by high - low

def entry? (table : CodeTable) (c : Char) : Option CodeEntry :=
  table.entryBetween? c.toNat 0 table.size (Nat.le_refl _)

def has (table : CodeTable) (c : Char) : Bool := (table.entry? c).isSome

def value? (table : CodeTable) (c : Char) : Option Nat :=
  (table.entry? c).bind (·.values.head?)

def hexNumber (cs : List Char) : Nat := cs.foldl (fun n c => n * 16 + (hexValue? c).getD 0) 0

/-- A range is written "first-last", numbers follow an equals sign with dots between them. -/
def entryOf (cs : List Char) : CodeEntry :=
  let (range, values) := (cutAt '=' cs).getD (cs, [])
  let (first, last) := (cutAt '-' range).getD (range, range)
  { first := hexNumber first, last := hexNumber last,
    values := if values.isEmpty then [] else (splitAt '.' values).map hexNumber }

def ofText (s : String) : CodeTable := ((wordsOf s.toList).map entryOf).toArray

end CodeTable

end ClusterBackup.Text
