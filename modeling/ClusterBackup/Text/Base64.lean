import ClusterBackup.Number.Digits

/-! Base 64 with the standard alphabet and padding. -/

set_option autoImplicit false

namespace ClusterBackup.Text.Base64

def symbol (n : Nat) : Char :=
  if n < 26 then Char.ofNat (65 + n)
  else if n < 52 then Char.ofNat (97 + (n - 26))
  else if n < 62 then Char.ofNat (48 + (n - 52))
  else if n = 62 then '+' else '/'

def value? (c : Char) : Option Nat :=
  if 'A' ≤ c ∧ c ≤ 'Z' then some (c.toNat - 65)
  else if 'a' ≤ c ∧ c ≤ 'z' then some (c.toNat - 97 + 26)
  else if '0' ≤ c ∧ c ≤ '9' then some (c.toNat - 48 + 52)
  else if c = '+' then some 62
  else if c = '/' then some 63
  else none

def encodeChars : List UInt8 → List Char
  | [] => []
  | [a] =>
    let n := a.toNat
    [symbol (n / 4), symbol (n % 4 * 16), '=', '=']
  | [a, b] =>
    let n := a.toNat * 256 + b.toNat
    [symbol (n / 1024), symbol (n / 16 % 64), symbol (n % 16 * 4), '=']
  | a :: b :: c :: rest =>
    let n := (a.toNat * 256 + b.toNat) * 256 + c.toNat
    symbol (n / 262144) :: symbol (n / 4096 % 64) :: symbol (n / 64 % 64) :: symbol (n % 64)
      :: encodeChars rest

def encode (bytes : List UInt8) : String :=
  String.ofList (encodeChars bytes)

/-- Padding is required, and the bits that padding leaves unused must be zero. -/
def decodeChars : List Char → Option (List UInt8)
  | [] => some []
  | [a, b, '=', '='] => do
    let n := (← value? a) * 64 + (← value? b)
    if n % 16 = 0 then some [UInt8.ofNat (n / 16)] else none
  | [a, b, c, '='] => do
    let n := ((← value? a) * 64 + (← value? b)) * 64 + (← value? c)
    if n % 4 = 0 then some [UInt8.ofNat (n / 1024), UInt8.ofNat (n / 4 % 256)] else none
  | a :: b :: c :: d :: rest => do
    let n := (((← value? a) * 64 + (← value? b)) * 64 + (← value? c)) * 64 + (← value? d)
    let more ← decodeChars rest
    some (UInt8.ofNat (n / 65536) :: UInt8.ofNat (n / 256 % 256) :: UInt8.ofNat (n % 256) :: more)
  | _ => none

def decode (s : String) : Option (List UInt8) :=
  decodeChars s.toList

/-- Why a text is not in base 64. Places count bytes. -/
inductive Unreadable where
  | symbol (byte : Nat) (place : Nat)
  /-- Padding leaves bits of a symbol unused that are not zero. -/
  | lastSymbol (byte : Nat) (place : Nat)
  | length (n : Nat)
  | padding
  deriving DecidableEq, Repr

def Unreadable.describe : Unreadable → String
  | .symbol byte place =>
    "Invalid symbol " ++ Number.textOf byte ++ ", offset " ++ Number.textOf place ++ "."
  | .lastSymbol byte place =>
    "Invalid last symbol " ++ Number.textOf byte ++ ", offset " ++ Number.textOf place ++ "."
  | .length n => "Invalid input length: " ++ Number.textOf n
  | .padding => "Invalid padding"

def isSymbol (b : UInt8) : Bool := (value? (Char.ofNat b.toNat)).isSome

def isPad (b : UInt8) : Bool := b == 61

/-- What is wrong with the last group of up to four bytes, which begins at a place. -/
def explainLast (place : Nat) (group : List UInt8) : Unreadable :=
  let data := group.takeWhile isSymbol
  let place := place + data.length
  let padding := group.drop data.length
  if data.length < 2 ∨ ! padding.all isPad then
    match padding.head? with
    | some b => .symbol b.toNat place
    | none => .length place
  else if group.length < 4 then .padding
  else .lastSymbol (data.getLast?.getD 0).toNat (place - 1)

/-- What is wrong with a text, given as bytes. A last byte behind whole groups is looked at first,
and then one group after the other. -/
def explain (bytes : List UInt8) : Unreadable :=
  let whole := (bytes.length - 1) / 4 * 4
  let group := bytes.drop whole
  match group with
  | [b] =>
    if isSymbol b ∨ isPad b then explainGroups whole group else .symbol b.toNat whole
  | group => explainGroups whole group
where
  explainGroups (whole : Nat) (group : List UInt8) : Unreadable :=
    let sound := (bytes.take whole).takeWhile isSymbol
    match (bytes.take whole).drop sound.length with
    | b :: _ => .symbol b.toNat sound.length
    | [] => explainLast whole group

def read (s : String) : Except Unreadable (List UInt8) :=
  match decode s with
  | some bytes => .ok bytes
  | none => .error (explain s.toUTF8.toList)

end ClusterBackup.Text.Base64
