import ClusterBackup.Number.Digits
import ClusterBackup.Text.Utf8

/-! Characters in URLs that are written as bytes in hexadecimal after a percent sign. -/

set_option autoImplicit false

namespace ClusterBackup.Url

open Number

/-- Control characters and everything beyond ASCII. -/
def isControl (c : Char) : Bool := c.toNat < 0x20 || 0x7E < c.toNat

def inFragment (c : Char) : Bool := isControl c || [' ', '"', '<', '>', '\u0060'].contains c

def inPath (c : Char) : Bool := inFragment c || ['#', '?', '\x7b', '\x7d'].contains c

def inUserInfo (c : Char) : Bool :=
  inPath c || ['/', ':', ';', '=', '@', '[', '\\', ']', '^', '|'].contains c

def inQuery (c : Char) : Bool := isControl c || [' ', '"', '#', '<', '>'].contains c

def inSpecialQuery (c : Char) : Bool := inQuery c || c == '\''

/-- What a form's field escapes: all but letters, digits and four marks. -/
def inForm (c : Char) : Bool := ! (c.isAlphanum || ['*', '-', '.', '_'].contains c)

def hexByte (n : Nat) : List Char :=
  let digit (n : Nat) : Char := if n < 10 then Char.ofNat (48 + n) else Char.ofNat (55 + n)
  ['%', digit (n / 16), digit (n % 16)]

def escapeChar (c : Char) : List Char :=
  (String.singleton c).toUTF8.toList.flatMap fun byte => hexByte byte.toNat

def escape (isEscaped : Char → Bool) (cs : List Char) : List Char :=
  cs.flatMap fun c => if isEscaped c then escapeChar c else [c]

def unescapeBytes : List Char → List UInt8
  | '%' :: a :: b :: rest =>
    match hexValue? a, hexValue? b with
    | some high, some low => UInt8.ofNat (high * 16 + low) :: unescapeBytes rest
    | _, _ => 37 :: unescapeBytes (a :: b :: rest)
  | c :: rest => (String.singleton c).toUTF8.toList ++ unescapeBytes rest
  | [] => []

end ClusterBackup.Url
