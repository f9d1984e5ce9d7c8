import ClusterBackup.Number.Digits
import ClusterBackup.Text.Quoted
import ClusterBackup.Url.DomainName
import ClusterBackup.Url.Escape

/-! Hosts in URLs: names, and addresses of four bytes or of eight words. -/

set_option autoImplicit false

namespace ClusterBackup.Url

open Number Text

inductive Fault where
  | emptyHost
  | badName
  | badPort
  | badFourBytes
  | badEightWords
  | badCharacter
  | relative
  deriving DecidableEq, Repr

def Fault.describe : Fault → String
  | .emptyHost => "empty host"
  | .badName => "invalid international domain name"
  | .badPort => "invalid port number"
  | .badFourBytes => "invalid IPv4 address"
  | .badEightWords => "invalid IPv6 address"
  | .badCharacter => "invalid domain character"
  | .relative => "relative URL without a base"

/-! ### Addresses -/

/-- A number in decimal, after a zero in octal, or after 0x in hexadecimal. -/
def addressNumber? (cs : List Char) : Option Nat :=
  match cs with
  | [] => none
  | '0' :: 'x' :: digits | '0' :: 'X' :: digits =>
    (digits.mapM hexValue?).map fun values => values.foldl (fun n v => n * 16 + v) 0
  | '0' :: d :: digits =>
    if (d :: digits).all fun c => '0' ≤ c && c ≤ '7' then
      some ((d :: digits).foldl (fun n c => n * 8 + digitValue c) 0)
    else none
  | cs => natOf? cs

def partsOf (cs : List Char) : List (List Char) :=
  let parts := splitAt '.' cs
  match parts.reverse with
  | [] :: rest => if rest.isEmpty then parts else rest.reverse
  | _ => parts

def endsInNumber (cs : List Char) : Bool :=
  match (partsOf cs).getLast? with
  | none => false
  | some last => (! last.isEmpty && last.all isDigit) || (addressNumber? last).isSome

def fourBytesText (n : Nat) : List Char :=
  digitsOf (n / 16777216) ++ '.' :: digitsOf (n / 65536 % 256) ++ '.' :: digitsOf (n / 256 % 256)
    ++ '.' :: digitsOf (n % 256)

/-- Up to four numbers; the last one fills the bytes that are left. -/
def fourBytes? (cs : List Char) : Option Nat := do
  let numbers ← (partsOf cs).mapM addressNumber?
  guard (numbers.length ≤ 4)
  let last ← numbers.getLast?
  let first := numbers.dropLast
  guard (first.all (· ≤ 255) && last < Nat.pow 256 (4 - first.length))
  return first.foldl (fun n byte => n * 256 + byte) 0 * Nat.pow 256 (4 - first.length) + last

def word? (cs : List Char) : Option Nat := do
  guard (0 < cs.length && cs.length ≤ 4)
  return (← cs.mapM hexValue?).foldl (fun n v => n * 16 + v) 0

/-- Four plain decimal numbers as two words. -/
def embedded? (cs : List Char) : Option (List Nat) := do
  let parts := splitAt '.' cs
  guard (parts.length = 4)
  let bytes ← parts.mapM fun part => do
    guard (part.length = 1 || part.head? ≠ some '0')
    let n ← natOf? part
    guard (n ≤ 255)
    return n
  match bytes with
  | [a, b, c, d] => return [a * 256 + b, c * 256 + d]
  | _ => none

/-- Words between colons; the last piece of an address may be four bytes. -/
def words? (atEnd : Bool) (cs : List Char) : Option (List Nat) :=
  if cs.isEmpty then some []
  else
    let pieces := splitAt ':' cs
    match pieces.reverse with
    | [] => none
    | last :: rest => do
      let before ← rest.reverse.mapM word?
      let tail ← if atEnd && last.contains '.' then embedded? last else (word? last).map ([·])
      return before ++ tail

/-- The text before two colons and after them. -/
def cutDouble : List Char → Option (List Char × List Char)
  | ':' :: ':' :: rest => some ([], rest)
  | c :: rest => (cutDouble rest).map fun (before, after) => (c :: before, after)
  | [] => none

/-- Eight words; two colons stand for one zero or more. -/
def eightWords? (cs : List Char) : Option (List Nat) :=
  match cutDouble cs with
  | none => do
    let words ← words? true cs
    guard (words.length = 8)
    return words
  | some (before, after) => do
    let first ← words? false before
    let last ← words? true after
    guard (first.length + last.length ≤ 7)
    return first ++ List.replicate (8 - first.length - last.length) 0 ++ last

/-- The longest run of at least two zeros, as start and length; the first of equals. -/
def zeroRun (words : List Nat) : Nat × Nat :=
  (List.range words.length).foldl (fun (best : Nat × Nat) start =>
    let length := ((words.drop start).takeWhile (· = 0)).length
    if 2 ≤ length ∧ best.2 < length then (start, length) else best) (0, 0)

def eightWordsText (words : List Nat) : List Char :=
  let text (words : List Nat) := joinWith [':'] (words.map hexDigits)
  let (start, length) := zeroRun words
  let body := if length = 0 then text words
    else text (words.take start) ++ [':', ':'] ++ text (words.drop (start + length))
  '[' :: body ++ [']']

/-! ### Hosts -/

def isDelimiter (c : Char) : Bool :=
  [' ', '#', '/', ':', '<', '>', '?', '@', '[', '\\', ']', '^', '|'].contains c

def isForbidden (c : Char) : Bool := c.toNat < 0x20 || c.toNat = 0x7F || c == '%' || isDelimiter c

def bracketed (cs : List Char) : Except Fault (List Char) :=
  match cs.reverse with
  | ']' :: inner =>
    match eightWords? inner.reverse with
    | some words => .ok (eightWordsText words)
    | none => .error .badEightWords
  | _ => .error .badEightWords

def specialHost (cs : List Char) : Except Fault (List Char) :=
  match cs with
  | '[' :: rest => bracketed rest
  | cs =>
    match domainName? (Text.decodeBytes (unescapeBytes cs)).toList with
    | none => .error .badName
    | some name =>
      if name.any isForbidden then .error .badName
      else if name.isEmpty then .error .emptyHost
      else if endsInNumber name then
        match fourBytes? name with
        | some n => .ok (fourBytesText n)
        | none => .error .badFourBytes
      else .ok name

def otherHost (cs : List Char) : Except Fault (List Char) :=
  match cs with
  | '[' :: rest => bracketed rest
  | cs =>
    if cs.any fun c => c == '\x00' || isDelimiter c then .error .badCharacter
    else .ok (escape isControl cs)

end ClusterBackup.Url
