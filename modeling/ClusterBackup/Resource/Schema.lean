import ClusterBackup.Json.Value

/-! Schemas of resources, and how an API server is told of them. -/

set_option autoImplicit false

namespace ClusterBackup

/-- What becomes of a field that is not given. An optional one may also be null. -/
inductive Presence where
  | required
  | optional
  | omittable
  | defaulted (value : Json)
  deriving BEq, Repr

inductive Schema where
  | text
  | time
  | flag
  | integer (format : String)
  | natural (format : String)
  | choice (names : List String)
  | list (items : Schema)
  | dictionary
  /-- An object of which nothing is said. -/
  | anything
  /-- What the record is, and its fields: name, meaning, presence and schema of each. -/
  | record (about : String) (fields : List (String × String × Presence × Schema))
  deriving Repr

namespace Presence

def members : Presence → Json.Members
  | .required | .omittable => []
  | .optional => [("nullable", .bool true)]
  | .defaulted value => [("default", value)]

end Presence

namespace Schema

abbrev Fields := List (String × String × Presence × Schema)

def requiredNames (fields : Fields) : List String :=
  fields.filterMap fun (name, _, presence, _) => if presence == .required then some name else none

def typed (name : String) : Json.Members := [("type", .string name)]

/-- What the schema itself says of its values. -/
def about : Schema → Json.Members
  | .record about _ => [("description", .string about)]
  | _ => []

mutual
def members : Schema → Json.Members
  | .text => typed "string"
  | .time => ("format", .string "date-time") :: typed "string"
  | .flag => typed "boolean"
  | .integer format => ("format", .string format) :: typed "integer"
  | .natural format =>
    [("format", .string format), ("minimum", .float false .zero)] ++ typed "integer"
  | .choice names => ("enum", Json.strings names) :: typed "string"
  | .list items => ("items", .object (items.about ++ members items)) :: typed "array"
  | .dictionary => ("additionalProperties", .object (typed "string")) :: typed "object"
  | .anything => ("x-kubernetes-preserve-unknown-fields", .bool true) :: typed "object"
  | .record _ fields =>
    let required := requiredNames fields
    ("properties", .object (properties fields))
      :: (if required.isEmpty then [] else [("required", Json.strings required)])
      ++ typed "object"

/-- The meaning of a field stands in place of that of its record. -/
def properties : Fields → Json.Members
  | [] => []
  | (name, meaning, presence, schema) :: rest =>
    (name, .object (("description", .string meaning) :: presence.members ++ members schema))
      :: properties rest
end

end Schema

end ClusterBackup
