import ClusterBackup.Number.Limits

/-! Decimal digits: reading them as numbers and writing numbers with them. -/

set_option autoImplicit false

namespace ClusterBackup.Number

def isDigit (c : Char) : Bool :=
  '0' ≤ c && c ≤ '9'

def digitValue (c : Char) : Nat :=
  c.toNat - 48

def hexValue? (c : Char) : Option Nat :=
  if '0' ≤ c ∧ c ≤ '9' then some (c.toNat - 48)
  else if 'a' ≤ c ∧ c ≤ 'f' then some (c.toNat - 87)
  else if 'A' ≤ c ∧ c ≤ 'F' then some (c.toNat - 55)
  else none

def valueOf (cs : List Char) : Nat :=
  cs.foldl (fun n c => n * 10 + digitValue c) 0

def natOf? (cs : List Char) : Option Nat :=
  if cs ≠ [] ∧ cs.all isDigit then some (valueOf cs) else none

/-- A number below a bound; a plus sign may stand in front. -/
def natBelow? (bound : Nat) (s : String) : Option Nat :=
  let digits := match s.toList with
    | '+' :: rest => rest
    | cs => cs
  (natOf? digits).filter (· < bound)

/-- A number from a range; a sign may stand in front. -/
def intWithin? (low high : Int) (s : String) : Option Int :=
  let value? := match s.toList with
    | '+' :: rest => (natOf? rest).map Int.ofNat
    | '-' :: rest => (natOf? rest).map fun n => - Int.ofNat n
    | cs => (natOf? cs).map Int.ofNat
  value?.filter fun n => low ≤ n ∧ n ≤ high

def digitsOf (n : Nat) : List Char :=
  Nat.toDigits 10 n

def textOf (n : Nat) : String :=
  String.ofList (digitsOf n)

def intText (n : Int) : String :=
  match n with
  | .ofNat n => textOf n
  | .negSucc n => "-" ++ textOf (n + 1)

/-- Digits of a number, with zeros in front up to a width. -/
def padded (width n : Nat) : List Char :=
  let digits := digitsOf n
  List.replicate (width - digits.length) '0' ++ digits

end ClusterBackup.Number
