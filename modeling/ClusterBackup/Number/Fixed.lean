import ClusterBackup.Number.Binary64
import ClusterBackup.Number.Digits
import ClusterBackup.Text.Scan

/-! Floating point numbers as decimals with a fixed number of places. A number that has left
the range is written as an infinite one. -/

set_option autoImplicit false

namespace ClusterBackup.Number.Binary64

/-- The nearest decimal with so many places; a half goes to the even neighbour. -/
def fixed (places : Nat) : Option Binary64 → List Char
  | none => ['i', 'n', 'f']
  | some x =>
    let units := roundQuotient (x.numerator * Nat.pow 10 places) x.denominator
    digitsOf (units / Nat.pow 10 places)
      ++ if places = 0 then [] else '.' :: padded places (units % Nat.pow 10 places)

/-- The zeros at the end of a fraction are left out, and so is a point with nothing behind it. -/
def brief (places : Nat) (x : Option Binary64) : List Char :=
  let cs := fixed places x
  if '.' ∈ cs then Text.dropRightWhile (· = '.') (Text.dropRightWhile (· = '0') cs) else cs

end ClusterBackup.Number.Binary64
