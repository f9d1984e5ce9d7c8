import ClusterBackup.Number.Binary64
import ClusterBackup.Number.Digits
import ClusterBackup.Text.Scan

/-! JSON values. Members of an object keep their order; integers and floating point
numbers are different, as 1 and 1.0 are. -/

set_option autoImplicit false

namespace ClusterBackup

inductive Json where
  | null
  | bool (b : Bool)
  | integer (n : Int)
  | float (negative : Bool) (size : Number.Binary64)
  | string (s : String)
  | array (elements : List Json)
  | object (members : List (String × Json))
  deriving BEq, Repr, Inhabited

namespace Json

abbrev Members := List (String × Json)

def nat (n : Nat) : Json := .integer n

def strings (xs : List String) : Json := .array (xs.map .string)

def text? : Json → Option String
  | .string s => some s
  | _ => none

def bool? : Json → Option Bool
  | .bool b => some b
  | _ => none

def within? (low high : Int) : Json → Option Int
  | .integer n => if low ≤ n ∧ n ≤ high then some n else none
  | _ => none

def nat32? (j : Json) : Option Nat := (j.within? 0 (Number.limit32 - 1)).map Int.toNat

def int32? (j : Json) : Option Int := j.within? Number.least32 Number.greatest32

def int64? (j : Json) : Option Int := j.within? Number.least64 Number.greatest64

def list? {α : Type} (element : Json → Option α) : Json → Option (List α)
  | .array xs => xs.mapM element
  | _ => none

def members? : Json → Option Members
  | .object members => some members
  | _ => none

namespace Members

/-- The first member of a name. -/
def get? (members : Members) (name : String) : Option Json :=
  (members.find? (·.1 == name)).map (·.2)

def required {α : Type} (members : Members) (name : String) (read : Json → Option α) : Option α :=
  (members.get? name).bind read

def optional {α : Type} (members : Members) (name : String) (read : Json → Option α) :
    Option (Option α) :=
  match members.get? name with
  | none | some .null => some none
  | some j => (read j).map some

def defaulted {α : Type} (members : Members) (name : String) (default : α)
    (read : Json → Option α) : Option α :=
  match members.get? name with
  | none => some default
  | some j => read j

def lenient {α : Type} (members : Members) (name : String) (default : α)
    (read : Json → Option α) : Option α :=
  match members.get? name with
  | none | some .null => some default
  | some j => read j

end Members

def member? {α : Type} (name : String) (write : α → Json) : Option α → Members
  | none => []
  | some a => [(name, write a)]

def memberUnlessEmpty {α : Type} (name : String) (write : α → Json) (xs : List α) : Members :=
  if xs.isEmpty then [] else [(name, .array (xs.map write))]

/-- The members of a record with the given names, each at most once. A record may also
be written as the array of its values in the order of the names. -/
def record? (names : List String) : Json → Option Members
  | .object members =>
    if names.all fun name => (members.filter (·.1 == name)).length ≤ 1 then some members else none
  | .array values =>
    if values.length ≤ names.length then some (names.zip values) else none
  | _ => none

/-- A name from a closed list, as text or as an object with that one name and null. -/
def choice? {α : Type} (choices : List (String × α)) : Json → Option α
  | .string s => (choices.find? (·.1 == s)).map (·.2)
  | .object [(s, .null)] => (choices.find? (·.1 == s)).map (·.2)
  | _ => none

/-- A member at its place in the order of the names, instead of an older one of its name. -/
def insertMember (name : String) (value : Json) : Members → Members
  | [] => [(name, value)]
  | (n, v) :: rest =>
    if name < n then (name, value) :: (n, v) :: rest
    else if name = n then (name, value) :: rest
    else (n, v) :: insertMember name value rest

mutual
/-- Members in the order of their names. Of several with one name only the last counts. -/
def ordered : Json → Json
  | .array xs => .array (orderedElements xs)
  | .object members => .object (orderedMembers members [])
  | j => j

def orderedElements : List Json → List Json
  | [] => []
  | x :: xs => ordered x :: orderedElements xs

def orderedMembers : Members → Members → Members
  | [], done => done
  | (name, value) :: rest, done => orderedMembers rest (insertMember name (ordered value) done)
end

/-- The value that a path of names and positions leads to. -/
def at? : Json → List String → Option Json
  | j, [] => some j
  | .object members, name :: path => do at? (← Members.get? members name) path
  | .array xs, name :: path => do
    let n ← Number.natOf? name.toList
    if Number.textOf n = name then at? (← xs[n]?) path else none
  | _, _ :: _ => none
termination_by _ path => path.length

/-- A step of a pointer, in which a tilde and a slash are written with two characters. -/
def pointerStep : List Char → List Char
  | '~' :: '1' :: rest => '/' :: pointerStep rest
  | '~' :: '0' :: rest => '~' :: pointerStep rest
  | c :: rest => c :: pointerStep rest
  | [] => []

/-- The value that a pointer leads to: every step of it follows after a slash. -/
def pointed? (j : Json) (pointer : String) : Option Json :=
  match Text.splitChar '/' pointer with
  | "" :: steps => at? j (steps.map (Text.onChars pointerStep))
  | _ => none

end Json

end ClusterBackup
