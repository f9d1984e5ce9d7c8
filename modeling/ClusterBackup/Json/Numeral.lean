import ClusterBackup.Json.Fault

/-! Numbers in JSON text. Integers are exact as far as 64 bits go. Everything else is a
floating point number: the digits that fit into 64 bits, scaled by a power of ten, each of the
two rounded. -/

set_option autoImplicit false

namespace ClusterBackup.Json

open Number

/-- A scaled number, unless it leaves the range. One step scales by 308 places at most. -/
def scaled? (x : Binary64) (exponent : Int) : Option Binary64 :=
  if small : exponent.natAbs ≤ 308 then do
    let power ← Binary64.ofNat (Nat.pow 10 exponent.natAbs)
    if 0 ≤ exponent then x.mul power else x.div power
  else if x.significand = 0 then some .zero
  else if up : 0 ≤ exponent then none
  else do
    let power ← Binary64.ofNat (Nat.pow 10 308)
    scaled? (← x.div power) (exponent + 308)
termination_by exponent.natAbs
decreasing_by omega

def floatAt (negative : Bool) (digits : Nat) (exponent : Int) (rest : List Char) :
    Placed (Found Json) :=
  match (Binary64.ofNat digits).bind (scaled? · exponent) with
  | some x => .ok (.float negative x, rest)
  | none => failAt .numberOutOfRange rest

/-- Further digits of a number below a limit, how many there are, and what follows: no digit, or
one that does not fit. -/
def digitsBelow (limit : Nat) : Nat → Nat → List Char → Nat × Nat × List Char
  | n, count, c :: rest =>
    if isDigit c ∧ n * 10 + digitValue c < limit then
      digitsBelow limit (n * 10 + digitValue c) (count + 1) rest
    else (n, count, c :: rest)
  | n, count, [] => (n, count, [])

def startsWithDigit (cs : List Char) : Bool := cs.head?.any isDigit

/-- An exponent after its letter. A huge one leaves only zero. -/
def exponentPart (negative : Bool) (digits : Nat) (start : Int) (cs : List Char) :
    Placed (Found Json) :=
  let (up, cs) := match cs with
    | '+' :: rest => (true, rest)
    | '-' :: rest => (false, rest)
    | cs => (true, cs)
  match cs with
  | [] => failAt .endInValue []
  | c :: rest =>
    if ! isDigit c then failIn .badNumber (c :: rest)
    else
      let (n, _, rest) := digitsBelow 2147483648 (digitValue c) 1 rest
      if ! startsWithDigit rest then
        floatAt negative digits (if up then start + n else start - n) rest
      else if digits ≠ 0 ∧ up then failAt .numberOutOfRange (rest.drop 1)
      else .ok (.float negative .zero, rest.dropWhile isDigit)

/-- What may follow the digits of a number that is no integer. -/
def floatEnd (negative : Bool) (digits : Nat) (exponent : Int) (cs : List Char) :
    Placed (Found Json) :=
  match cs with
  | 'e' :: rest | 'E' :: rest => exponentPart negative digits exponent rest
  | cs => floatAt negative digits exponent cs

/-- A fraction after its point. Digits that do not fit are left out. -/
def fractionPart (negative : Bool) (digits : Nat) (exponent : Int) (cs : List Char) :
    Placed (Found Json) :=
  let (n, count, rest) := digitsBelow limit64 digits 0 cs
  if startsWithDigit rest then
    floatEnd negative n (exponent - count) (rest.dropWhile isDigit)
  else if count = 0 then
    match rest with
    | [] => failAt .endInValue []
    | rest => failIn .badNumber rest
  else floatEnd negative n (exponent - count) rest

/-- What may follow the digits of an integer. A negative zero is no integer. -/
def numberEnd (negative : Bool) (digits : Nat) (cs : List Char) : Placed (Found Json) :=
  match cs with
  | '.' :: rest => fractionPart negative digits 0 rest
  | 'e' :: rest | 'E' :: rest => exponentPart negative digits 0 rest
  | cs =>
    if ! negative then .ok (.integer digits, cs)
    else if 0 < digits ∧ least64 ≤ - (digits : Int) then .ok (.integer (- (digits : Int)), cs)
    else floatAt true digits 0 cs

/-- A number after its sign, with no zero in front of other digits. -/
def unsigned (negative : Bool) (cs : List Char) : Placed (Found Json) :=
  match cs with
  | [] => failAt .endInValue []
  | '0' :: rest =>
    if startsWithDigit rest then failIn .badNumber rest else numberEnd negative 0 rest
  | c :: rest =>
    if ! isDigit c then failIn .badNumber (c :: rest)
    else
      let (n, _, rest) := digitsBelow limit64 (digitValue c) 1 rest
      let more := rest.takeWhile isDigit
      if more.isEmpty then numberEnd negative n rest
      else
        match rest.drop more.length with
        | '.' :: rest => fractionPart negative n more.length rest
        | rest => floatEnd negative n more.length rest

def number (cs : List Char) : Placed (Found Json) :=
  match cs with
  | '-' :: rest => unsigned true rest
  | cs => unsigned false cs

end ClusterBackup.Json
