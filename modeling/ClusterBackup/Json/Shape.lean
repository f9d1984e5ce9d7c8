import ClusterBackup.Json.Value
import ClusterBackup.Text.Base64
import ClusterBackup.Time.Rfc3339

/-! The shapes that the JSON of types has.

A record lists its members, and may be written as the list of their values. An object of a cluster
is lenient: it takes null for absent everywhere. Both drop members that they do not know. -/

set_option autoImplicit false

namespace ClusterBackup.Json

/-- A type of integers, by name and range. -/
structure IntegerType where
  name : String
  low : Int
  high : Int
  deriving DecidableEq, Repr

def signed32 : IntegerType := ⟨"i32", Number.least32, Number.greatest32⟩

def signed64 : IntegerType := ⟨"i64", Number.least64, Number.greatest64⟩

def unsigned16 : IntegerType := ⟨"u16", 0, 65535⟩

def unsigned32 : IntegerType := ⟨"u32", 0, Number.limit32 - 1⟩

/-- Whether a member may be missing, and whether it may be null. -/
inductive Presence where
  | required
  | optional
  /-- Missing or not, but never null. -/
  | defaulted
  /-- Like an optional member, but a list of values has to have its place. -/
  | nullable
  deriving DecidableEq, Repr

inductive Shape where
  | anything
  | text
  | flag
  | whole (type : IntegerType)
  /-- A point in time. -/
  | instant
  /-- Bytes in base 64. -/
  | bytes
  /-- The number of a port or a share, or its name. -/
  | amount
  | many (element : Shape)
  | table (value : Shape)
  | choice (names : List String)
  /-- Null stands for what is empty. -/
  | orNull (shape : Shape)
  | record (name : String) (fields : List (String × Presence × Shape))
  /-- A record whose other members have to be well formed. -/
  | openRecord (name : String) (fields : List (String × Presence × Shape))
  /-- Some members of an object are always the same text. -/
  | object (name : String) (fixed : List (String × String))
      (fields : List (String × Presence × Shape))

abbrev Fields := List (String × Presence × Shape)

namespace Shape

def opt (name : String) (shape : Shape) : String × Presence × Shape := (name, .optional, shape)

def req (name : String) (shape : Shape) : String × Presence × Shape := (name, .required, shape)

def dft (name : String) (shape : Shape) : String × Presence × Shape := (name, .defaulted, shape)

def each (shape : Shape) (names : List String) : Fields := names.map (opt · shape)

def texts (names : List String) : Fields := each .text names

def flags (names : List String) : Fields := each .flag names

def counts (names : List String) : Fields := each (.whole signed32) names

/-- An object of a cluster without members that are fixed. -/
def part (name : String) (fields : Fields) : Shape := .object name [] fields

/-- What a fault calls a shape. -/
def expectation : Shape → String
  | .anything => "any value"
  | .text => "a string"
  | .flag => "a boolean"
  | .whole type => type.name
  | .instant => "an RFC 3339 formatted date and time string"
  | .bytes => "a base64-encoded string"
  | .amount => "enum IntOrString"
  | .many _ => "a sequence"
  | .table _ => "a map"
  | .choice _ => "a name"
  | .orNull shape => shape.expectation
  | .record name _ | .openRecord name _ => "struct " ++ name
  | .object name _ _ => name

mutual
def empty : Shape → Json
  | .text | .instant | .bytes | .choice _ => .string ""
  | .flag => .bool false
  | .whole _ | .amount => .integer 0
  | .many _ => .array []
  | .table _ => .object []
  | .record _ fields | .openRecord _ fields | .object _ _ fields => .object (emptyMembers fields)
  | .orNull shape => empty shape
  | .anything => .null

def emptyMembers : Fields → Json.Members
  | [] => []
  | (name, presence, shape) :: rest =>
    if presence = .required then (name, empty shape) :: emptyMembers rest else emptyMembers rest
end

/-- A point in time, written in whole seconds. -/
def instantText? (s : String) : Option String := (Instant.parse s).map Instant.textInSeconds

mutual
/-- The value with only the members of its shape, if they have the right types. -/
def carry? : Shape → Json → Option Json
  | .anything, j => some j
  | .text, j => j.text?.map .string
  | .flag, j => j.bool?.map .bool
  | .whole type, j => (j.within? type.low type.high).map .integer
  | .instant, j => j.text?.bind fun s => (instantText? s).map .string
  | .bytes, j => j.text?.bind fun s => (Text.Base64.decode s).map fun _ => .string s
  | .amount, .string s => some (.string s)
  | .amount, j => j.int32?.map .integer
  | .many element, .array xs => (xs.mapM fun x => carry? element x).map .array
  | .many _, _ => none
  | .table value, .object members =>
    (members.mapM fun member => (carry? value member.2).map (member.1, ·)).map .object
  | .table _, _ => none
  | .choice names, j => choice? (names.map fun name => (name, .string name)) j
  | .orNull shape, .null => some (empty shape)
  | .orNull shape, j => carry? shape j
  | .record _ fields, j | .openRecord _ fields, j => do
    (carryMembers? false fields (← record? (fields.map (·.1)) j)).map .object
  | .object _ fixed fields, .object members => do
    guard (fixed.all fun (name, expected) =>
      (Members.get? members name).all (·.text? == some expected))
    (carryMembers? true fields members).map .object
  | .object _ _ _, _ => none

/-- The members of an object, which is lenient, or of a record. -/
def carryMembers? (lenient : Bool) : Fields → Json.Members → Option Json.Members
  | [], _ => some []
  | (name, presence, shape) :: rest, members => do
    let others ← carryMembers? lenient rest members
    match members.get? name with
    | none =>
      if presence ≠ .required then return others
      else if lenient then return (name, empty shape) :: others else none
    | some .null =>
      if lenient && presence == .required then return (name, empty shape) :: others
      else if lenient || presence == .optional || presence == .nullable then return others
      else return (name, ← carry? shape .null) :: others
    | some j => return (name, ← carry? shape j) :: others
end

end Shape

end ClusterBackup.Json
