import ClusterBackup.Failure
import ClusterBackup.Text.Dictionary
import ClusterBackup.Text.Scan

/-! Label selectors: which label sets they pick, and the text that list calls take. -/

set_option autoImplicit false

namespace ClusterBackup.Cluster

open Json

/-- A requirement on the value of one label. The operator is what a user wrote. -/
structure Requirement where
  key : String
  operator : String
  values : Option (List String) := none
  deriving DecidableEq, Repr

inductive Operator where
  | oneOf
  | noneOf
  | present
  | absent
  deriving DecidableEq, Repr

structure LabelSelector where
  labels : Option Dictionary := none
  requirements : Option (List Requirement) := none
  deriving DecidableEq, Repr, Inhabited

def Operator.parse : String → Except Failure Operator
  | "In" => .ok .oneOf
  | "NotIn" => .ok .noneOf
  | "Exists" => .ok .present
  | "DoesNotExist" => .ok .absent
  | other => .error (.validation (Text.quote other ++ " is not a valid label selector operator"))

namespace Requirement

def accepts (operator : Operator) (values : List String) (value : Option String) : Bool :=
  match operator with
  | .oneOf => value.any (values.contains ·)
  | .noneOf => value.all (! values.contains ·)
  | .present => value.isSome
  | .absent => value.isNone

def holds (r : Requirement) (labels : Dictionary) : Except Failure Bool := do
  let operator ← Operator.parse r.operator
  return accepts operator (r.values.getD []) (labels.get? r.key)

def text (r : Requirement) : Except Failure String := do
  let values := "(" ++ Text.join "," ((r.values.getD []).mergeSort (decide <| · ≤ ·)) ++ ")"
  match ← Operator.parse r.operator with
  | .oneOf => return r.key ++ " in " ++ values
  | .noneOf => return r.key ++ " notin " ++ values
  | .present => return r.key
  | .absent => return "!" ++ r.key

def ofJson? (j : Json) : Option Requirement := do
  let members ← j.members?
  return {
    key := ← members.lenient "key" "" text?
    operator := ← members.lenient "operator" "" text?
    values := ← members.optional "values" (list? text?) }

def toJson (r : Requirement) : Json :=
  .object ([("key", .string r.key), ("operator", .string r.operator)]
    ++ member? "values" strings r.values)

end Requirement

namespace LabelSelector

/-- Requirements are asked in order, and the first that fails decides. -/
def allHold (labels : Dictionary) : List Requirement → Except Failure Bool
  | [] => .ok true
  | r :: rest => do
    if ← r.holds labels then allHold labels rest else return false

/-- Every label and every requirement holds; nothing asked picks everything. -/
def picks (s : LabelSelector) (labels : Dictionary) : Except Failure Bool :=
  if (s.labels.map Dictionary.entries |>.getD []).any fun (k, v) => labels.get? k != some v then
    .ok false
  else allHold labels (s.requirements.getD [])

def text (s : LabelSelector) : Except Failure String := do
  let labels := (s.labels.map Dictionary.entries |>.getD []).map fun (k, v) => k ++ "=" ++ v
  let requirements ← (s.requirements.getD []).mapM Requirement.text
  return Text.join "," (labels ++ requirements)

def ofJson? (j : Json) : Option LabelSelector := do
  let members ← j.members?
  return {
    labels := ← members.optional "matchLabels" Dictionary.ofJson?
    requirements := ← members.optional "matchExpressions" (list? Requirement.ofJson?) }

def toJson (s : LabelSelector) : Json :=
  .object (member? "matchExpressions" (fun rs => .array (rs.map Requirement.toJson)) s.requirements
    ++ member? "matchLabels" Dictionary.toJson s.labels)

end LabelSelector

end ClusterBackup.Cluster
