/-! Non-negative numbers in 64-bit binary floating point, in exact arithmetic.

A number is `significand · 2 ^ exponent`. Every operation computes the exact
quotient of two natural numbers and rounds it once, to the nearest number with a
53-bit significand, ties to the even significand. -/

set_option autoImplicit false

namespace ClusterBackup.Number

/-- The nearest natural number to a quotient; a half goes to the even neighbour. -/
def roundQuotient (numerator denominator : Nat) : Nat :=
  let quotient := numerator / denominator
  let twice := 2 * (numerator % denominator)
  if twice < denominator then quotient
  else if denominator < twice then quotient + 1
  else if quotient % 2 = 0 then quotient else quotient + 1

structure Binary64 where
  significand : Nat
  exponent : Int
  deriving DecidableEq, Repr

namespace Binary64

def zero : Binary64 := ⟨0, 0⟩

def numerator (x : Binary64) : Nat :=
  x.significand * Nat.pow 2 x.exponent.toNat

def denominator (x : Binary64) : Nat :=
  Nat.pow 2 (- x.exponent).toNat

/-- The exponent of the last place of the number nearest to a positive quotient. -/
def placeOf (numerator denominator : Nat) : Int :=
  let guess : Int := (Nat.log2 numerator : Int) - (Nat.log2 denominator : Int) - 52
  let short : Bool :=
    numerator * Nat.pow 2 (- guess).toNat < Nat.pow 2 52 * denominator * Nat.pow 2 guess.toNat
  max (if short then guess - 1 else guess) (-1074)

/-- The number nearest to a quotient; `none` from 2 ^ 1024 on. -/
def round (numerator denominator : Nat) : Option Binary64 :=
  if numerator = 0 then some zero
  else
    let place := placeOf numerator denominator
    let significand :=
      roundQuotient (numerator * Nat.pow 2 (- place).toNat) (denominator * Nat.pow 2 place.toNat)
    let rounded : Binary64 :=
      if significand = Nat.pow 2 53 then ⟨Nat.pow 2 52, place + 1⟩ else ⟨significand, place⟩
    if 971 < rounded.exponent then none else some rounded

def ofNat (n : Nat) : Option Binary64 :=
  round n 1

def mul (x y : Binary64) : Option Binary64 :=
  round (x.numerator * y.numerator) (x.denominator * y.denominator)

def div (x y : Binary64) : Option Binary64 :=
  round (x.numerator * y.denominator) (x.denominator * y.numerator)

def add (x y : Binary64) : Option Binary64 :=
  round (x.numerator * y.denominator + y.numerator * x.denominator) (x.denominator * y.denominator)

def le (x y : Binary64) : Bool :=
  x.numerator * y.denominator ≤ y.numerator * x.denominator

def minimum (x : Option Binary64) (y : Binary64) : Binary64 :=
  match x with
  | some x => if x.le y then x else y
  | none => y

/-- The number nearest to a decimal: digits before the point and digits after it. -/
def ofDecimal (whole fraction : List Char) : Option Binary64 :=
  let value (cs : List Char) : Nat := cs.foldl (fun n c => n * 10 + (c.toNat - 48)) 0
  round (value (whole ++ fraction)) (Nat.pow 10 fraction.length)

end Binary64

end ClusterBackup.Number
