import ClusterBackup.Json.Writer

/-! What can be wrong with JSON text, and where. -/

set_option autoImplicit false

namespace ClusterBackup.Json

open Number

inductive Fault where
  | endInList
  | endInObject
  | endInString
  | endInValue
  | noColon
  | noListEnd
  | noObjectEnd
  | noIdentifier
  | noValue
  | badEscape
  | badNumber
  | numberOutOfRange
  | controlCharacter
  | keyNotText
  | loneSurrogate
  | trailingComma
  | trailingCharacters
  | endInEscape
  | tooDeep
  /-- A value of another type. Of lists and objects the content is of no account. -/
  | wrongType (found : Json) (expected : String)
  | wrongValue (found : Json) (expected : String)
  | wrongLength (length : Nat) (expected : String)
  | unknownName (name : String) (known : List String)
  | missingMember (name : String)
  | repeatedMember (name : String)
  /-- Text that does not say what it should. -/
  | unreadable (reason : String)
  deriving BEq, Repr

def kindText : Json → String
  | .null => "null"
  | .bool b => "boolean `" ++ write (.bool b) ++ "`"
  | .integer n => "integer `" ++ intText n ++ "`"
  | .float negative x => "floating point `" ++ floatText negative x ++ "`"
  | .string s => "string " ++ Text.quote s
  | .array _ => "sequence"
  | .object _ => "map"

def namesText (names : List String) : String :=
  match names.map fun name => "`" ++ name ++ "`" with
  | [one] => one
  | [one, other] => one ++ " or " ++ other
  | names => "one of " ++ Text.join ", " names

def Fault.describe : Fault → String
  | .endInList => "EOF while parsing a list"
  | .endInObject => "EOF while parsing an object"
  | .endInString => "EOF while parsing a string"
  | .endInValue => "EOF while parsing a value"
  | .noColon => "expected `:`"
  | .noListEnd => "expected `,` or `]`"
  | .noObjectEnd => "expected `,` or `\x7d`"
  | .noIdentifier => "expected ident"
  | .noValue => "expected value"
  | .badEscape => "invalid escape"
  | .badNumber => "invalid number"
  | .numberOutOfRange => "number out of range"
  | .controlCharacter => "control character (\\u0000-\\u001F) found while parsing a string"
  | .keyNotText => "key must be a string"
  | .loneSurrogate => "lone leading surrogate in hex escape"
  | .trailingComma => "trailing comma"
  | .trailingCharacters => "trailing characters"
  | .endInEscape => "unexpected end of hex escape"
  | .tooDeep => "recursion limit exceeded"
  | .wrongType found expected => "invalid type: " ++ kindText found ++ ", expected " ++ expected
  | .wrongValue found expected => "invalid value: " ++ kindText found ++ ", expected " ++ expected
  | .wrongLength length expected =>
    "invalid length " ++ textOf length ++ ", expected " ++ expected
  | .unknownName name known => "unknown variant `" ++ name ++ "`, expected " ++ namesText known
  | .missingMember name => "missing field `" ++ name ++ "`"
  | .repeatedMember name => "duplicate field `" ++ name ++ "`"
  | .unreadable reason => reason

/-- A fault at the beginning of a rest of the text, or some bytes further on. -/
structure PlacedFault where
  fault : Fault
  rest : List Char
  further : Nat := 0

abbrev Placed (α : Type) := Except PlacedFault α

abbrev Found (α : Type) := α × List Char

def failAt {α : Type} (fault : Fault) (rest : List Char) : Placed α :=
  .error { fault, rest }

/-- A fault one byte into the rest, if there is a rest. -/
def failIn {α : Type} (fault : Fault) (rest : List Char) : Placed α :=
  .error { fault, rest, further := 1 }

def position (bytes : List UInt8) (place : Nat) : Nat × Nat :=
  let before := bytes.take place
  (1 + before.count 10, (before.reverse.takeWhile (· ≠ 10)).length)

def byteCount : List Char → Nat
  | [] => 0
  | c :: cs => c.utf8Size + byteCount cs

def PlacedFault.describe (cs : List Char) (f : PlacedFault) : String :=
  let bytes := (String.ofList cs).toUTF8.toList
  let (line, column) := position bytes (bytes.length - byteCount f.rest + f.further)
  f.fault.describe ++ " at line " ++ textOf line ++ " column " ++ textOf column

end ClusterBackup.Json
