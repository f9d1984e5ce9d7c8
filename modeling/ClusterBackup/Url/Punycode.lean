import ClusterBackup.Text.Scan

/-! Labels of domain names in ASCII alone: the characters beyond it are moved behind the others,
as places and values in digits of varying worth. -/

set_option autoImplicit false

namespace ClusterBackup.Url

open Text

namespace Punycode

def biasFrom (delta k : Nat) : Nat :=
  if 455 < delta then biasFrom (delta / 35) (k + 36) else k + 36 * delta / (delta + 38)
termination_by delta
decreasing_by exact Nat.div_lt_self (by omega) (by omega)

def adapt (delta points : Nat) (first : Bool) : Nat :=
  let delta := if first then delta / 700 else delta / 2
  biasFrom (delta + delta / points) 0

def digit (n : Nat) : Char := Char.ofNat (if n < 26 then n + 97 else n + 22)

def digitValue? (c : Char) : Option Nat :=
  if 'a' ≤ c ∧ c ≤ 'z' then some (c.toNat - 97)
  else if '0' ≤ c ∧ c ≤ '9' then some (c.toNat - 22)
  else none

/-- Digits below this one end a number. -/
def threshold (bias k : Nat) : Nat := if k ≤ bias then 1 else min (k - bias) 26

/-! ### Writing -/

theorem threshold_pos (bias k : Nat) : 0 < threshold bias k := by
  unfold threshold; split <;> omega

def digitsFrom (bias q k : Nat) : List Char :=
  let t := threshold bias k
  if q < t then [digit q]
  else digit (t + (q - t) % (36 - t)) :: digitsFrom bias ((q - t) / (36 - t)) (k + 36)
termination_by q
decreasing_by
  have positive := threshold_pos bias k
  exact Nat.lt_of_le_of_lt (Nat.div_le_self _ _) (by omega)

structure Encoding where
  delta : Nat
  bias : Nat
  handled : Nat
  output : List Char

/-- One code point: all characters below it count one, and itself writes the count. -/
def encodePoint (basic point : Nat) (cs : List Char) (e : Encoding) : Encoding :=
  cs.foldl (fun e c =>
    if c.toNat < point then { e with delta := e.delta + 1 }
    else if c.toNat = point then
      { delta := 0, bias := adapt e.delta (e.handled + 1) (e.handled == basic),
        handled := e.handled + 1, output := e.output ++ digitsFrom e.bias e.delta 36 }
    else e) e

def encode (cs : List Char) : List Char :=
  let basic := cs.filter (·.toNat < 128)
  let points := ((cs.filter (128 ≤ ·.toNat)).map Char.toNat).mergeSort.eraseDups
  let start : Encoding :=
    { delta := 0, bias := 72, handled := basic.length,
      output := if basic.isEmpty then [] else basic ++ ['-'] }
  let (e, _) := points.foldl (fun (e, n) point =>
    let e := { e with delta := e.delta + (point - n) * (e.handled + 1) }
    let e := encodePoint basic.length point cs e
    ({ e with delta := e.delta + 1 }, point + 1)) (start, 128)
  e.output

/-! ### Reading -/

/-- Numbers read so far, and the number in progress: its value, the worth of its next digit, and
which digit that is. -/
structure Decoding where
  output : List Char
  point : Nat := 128
  place : Nat := 0
  bias : Nat := 72
  value : Nat := 0
  worth : Nat := 1
  position : Nat := 36
  started : Bool := false

/-- A finished number says how far the next character is, counted over values and places. -/
def Decoding.insert? (s : Decoding) (delta : Nat) : Option Decoding :=
  let count := s.output.length + 1
  let point := s.point + (s.place + delta) / count
  let place := (s.place + delta) % count
  if 0x10FFFF < point ∨ (0xD800 ≤ point ∧ point < 0xE000) then none
  else some
    { output := s.output.take place ++ Char.ofNat point :: s.output.drop place,
      point, place := place + 1, bias := adapt delta count (! s.started), started := true }

def Decoding.read? (s : Decoding) (c : Char) : Option Decoding := do
  let digit ← digitValue? c
  let value := s.value + digit * s.worth
  guard (value < 4294967296)
  let t := threshold s.bias s.position
  if digit < t then s.insert? value
  else return { s with value, worth := s.worth * (36 - t), position := s.position + 36 }

/-- The characters in ASCII stand before the last hyphen, which only they bring along. -/
def decode? (cs : List Char) : Option (List Char) := do
  let last := (cs.reverse.takeWhile (· ≠ '-')).reverse
  let basic := (cs.take (cs.length - last.length)).dropLast
  guard (! basic.isEmpty || last.length = cs.length)
  let s ← last.foldlM Decoding.read? { output := basic }
  guard (s.position = 36)
  return s.output

end Punycode

end ClusterBackup.Url
