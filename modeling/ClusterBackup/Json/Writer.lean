import ClusterBackup.Json.Value
import ClusterBackup.Number.Shortest
import ClusterBackup.Text.Quoted

/-! JSON values as text without blanks. -/

set_option autoImplicit false

namespace ClusterBackup.Json

open Number

def escape (c : Char) : List Char :=
  match c with
  | '"' => ['\\', '"']
  | '\\' => ['\\', '\\']
  | '\n' => ['\\', 'n']
  | '\r' => ['\\', 'r']
  | '\t' => ['\\', 't']
  | '\x08' => ['\\', 'b']
  | '\x0c' => ['\\', 'f']
  | c =>
    if c.toNat < 0x20 then
      let digits := Text.hexDigits c.toNat
      ['\\', 'u'] ++ List.replicate (4 - digits.length) '0' ++ digits
    else [c]

def quoteText (s : String) : String :=
  "\"" ++ String.ofList (s.toList.flatMap escape) ++ "\""

/-- Floating point numbers in their shortest digits: positional, and with a point, from 0.00001 up
to sixteen digits before the point, and else with an exponent. -/
def floatText (negative : Bool) (x : Binary64) : String :=
  let (digits, places) := if x.significand = 0 then (0, 0) else x.shortest
  let cs := digitsOf digits
  let before : Int := cs.length - places
  let body :=
    if 16 < before ∨ before ≤ -5 then
      let fraction := if cs.length = 1 then [] else '.' :: cs.drop 1
      let sign := if 0 < before then ['+'] else ['-']
      cs.take 1 ++ fraction ++ ['e'] ++ sign ++ digitsOf (before - 1).natAbs
    else if places ≤ 0 then cs ++ List.replicate (- places).toNat '0' ++ ['.', '0']
    else
      let cs := padded (places.toNat + 1) digits
      cs.take (cs.length - places.toNat) ++ '.' :: cs.drop (cs.length - places.toNat)
  String.ofList (if negative then '-' :: body else body)

mutual
def write : Json → String
  | .null => "null"
  | .bool true => "true"
  | .bool false => "false"
  | .integer n => intText n
  | .float negative x => floatText negative x
  | .string s => quoteText s
  | .array xs => "[" ++ writeElements xs ++ "]"
  | .object members => "\x7b" ++ writeMembers members ++ "\x7d"

def writeElements : List Json → String
  | [] => ""
  | [x] => write x
  | x :: y :: rest => write x ++ "," ++ writeElements (y :: rest)

def writeMembers : Members → String
  | [] => ""
  | [(name, value)] => quoteText name ++ ":" ++ write value
  | (name, value) :: next :: rest =>
    quoteText name ++ ":" ++ write value ++ "," ++ writeMembers (next :: rest)
end

end ClusterBackup.Json
