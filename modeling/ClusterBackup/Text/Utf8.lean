/-! Bytes read as UTF-8. Where the bytes are not well formed, each longest piece
that could still have begun a character is replaced by U+FFFD. -/

set_option autoImplicit false

namespace ClusterBackup.Text

def replacement : Char := '\uFFFD'

/-- How a first byte continues: the number of further bytes, the range of the
second byte, and the bits that the first byte contributes. -/
structure Lead where
  count : Nat
  low : Nat
  high : Nat
  bits : Nat

def lead? (b : Nat) : Option Lead :=
  if b < 0x80 then some ⟨0, 0, 0, b⟩
  else if b < 0xC2 then none
  else if b < 0xE0 then some ⟨1, 0x80, 0xBF, b - 0xC0⟩
  else if b = 0xE0 then some ⟨2, 0xA0, 0xBF, 0⟩
  else if b = 0xED then some ⟨2, 0x80, 0x9F, 0xD⟩
  else if b < 0xF0 then some ⟨2, 0x80, 0xBF, b - 0xE0⟩
  else if b = 0xF0 then some ⟨3, 0x90, 0xBF, 0⟩
  else if b < 0xF4 then some ⟨3, 0x80, 0xBF, b - 0xF0⟩
  else if b = 0xF4 then some ⟨3, 0x80, 0x8F, 4⟩
  else none

/-- A character that has begun: bits so far, bytes still missing, range of the next byte. -/
structure Pending where
  bits : Nat
  missing : Nat
  low : Nat
  high : Nat

def begin (b : Nat) : List Char × Option Pending :=
  match lead? b with
  | none => ([replacement], none)
  | some ⟨0, _, _, bits⟩ => ([Char.ofNat bits], none)
  | some ⟨count, low, high, bits⟩ => ([], some ⟨bits, count, low, high⟩)

/-- What one more byte completes, and what is pending after it. -/
def feed (pending : Option Pending) (b : Nat) : List Char × Option Pending :=
  match pending with
  | none => begin b
  | some p =>
    if p.low ≤ b ∧ b ≤ p.high then
      let bits := p.bits * 64 + b % 64
      if p.missing = 1 then ([Char.ofNat bits], none)
      else ([], some ⟨bits, p.missing - 1, 0x80, 0xBF⟩)
    else
      let (chars, next) := begin b
      (replacement :: chars, next)

def decodeBytesFrom (pending : Option Pending) : List UInt8 → List Char
  | [] => if pending.isSome then [replacement] else []
  | b :: rest =>
    let (chars, next) := feed pending b.toNat
    chars ++ decodeBytesFrom next rest

def decodeBytes (bytes : List UInt8) : String :=
  String.ofList (decodeBytesFrom none bytes)

def encodeBytes (s : String) : List UInt8 :=
  s.toUTF8.toList

end ClusterBackup.Text
