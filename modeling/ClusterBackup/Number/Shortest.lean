import ClusterBackup.Number.Binary64
import ClusterBackup.Number.Digits

/-! The shortest decimal that reads back as a given floating point number, written
without an exponent. -/

set_option autoImplicit false

namespace ClusterBackup.Number

namespace Binary64

/-- Whether `digits · 10 ^ (-places)` reads back as `x`. Fractions of the scale are
cleared by multiplying with powers of ten on the side where they belong. -/
def readsBack (x : Binary64) (digits : Nat) (places : Int) : Bool :=
  round (digits * Nat.pow 10 (- places).toNat) (Nat.pow 10 places.toNat) = some x

/-- The multiples of `10 ^ (-places)` next to `x`, counted in that unit, the nearer one first. -/
def neighbours (x : Binary64) (places : Int) : List Nat :=
  let numerator := x.numerator * Nat.pow 10 places.toNat
  let denominator := x.denominator * Nat.pow 10 (- places).toNat
  let below := numerator / denominator
  if roundQuotient numerator denominator = below then [below, below + 1] else [below + 1, below]

/-- Tries coarse decimal grids first: `steps` more places, beginning with `places`. -/
def shortestFrom (x : Binary64) : Nat → Int → Nat × Int
  | 0, places => ((x.neighbours places).headD 0, places)
  | steps + 1, places =>
    match (x.neighbours places).find? (x.readsBack · places) with
    | some digits => (digits, places)
    | none => shortestFrom x steps (places + 1)

/-- Seventeen significant digits always suffice, so the search starts above the
leading digit of the number and looks at nineteen grids. -/
def shortest (x : Binary64) : Nat × Int :=
  let start : Int :=
    if x.denominator ≤ x.numerator then - ((digitsOf (x.numerator / x.denominator)).length : Int)
    else ((digitsOf (x.denominator / x.numerator)).length : Int) - 1
  x.shortestFrom 19 start

/-- Positional text: no exponent, and no point where there is no fraction. -/
def text (x : Binary64) : String :=
  if x.significand = 0 then "0"
  else
    let (digits, places) := x.shortest
    if places ≤ 0 then textOf (digits * Nat.pow 10 (- places).toNat)
    else
      let cs := padded (places.toNat + 1) digits
      let whole := cs.take (cs.length - places.toNat)
      String.ofList (whole ++ ['.'] ++ cs.drop (cs.length - places.toNat))

end Binary64

end ClusterBackup.Number
