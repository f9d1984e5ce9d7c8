import ClusterBackup.Cluster.Pod
import ClusterBackup.Text.Base64
import ClusterBackup.Text.Utf8

/-! Secrets: values by key, as bytes or as text. -/

set_option autoImplicit false

namespace ClusterBackup.Cluster

open Json

structure Secret where
  metadata : Metadata
  bytes : Option (List (String × List UInt8)) := none
  texts : Option Dictionary := none
  more : Members := []
  deriving BEq, Repr

namespace Secret

def bytes? (s : Secret) (key : String) : Option (List UInt8) :=
  match (s.bytes.getD []).find? (·.1 == key) with
  | some (_, value) => some value
  | none => ((s.texts.getD .empty).get? key).map Text.encodeBytes

/-- The value as text; bytes that are not text are replaced. -/
def text? (s : Secret) (key : String) : Option String := (s.bytes? key).map Text.decodeBytes

def value? : Json → Option (List UInt8)
  | .null => some []
  | j => j.text?.bind Text.Base64.decode

def values? (j : Json) : Option (List (String × List UInt8)) := do
  (← j.members?).mapM fun (key, value) => return (key, ← value? value)

def moreFields : Fields := [Shape.opt "immutable" .flag, Shape.opt "type" .text]

def shape : Shape :=
  Shape.identified "v1" "Secret"
    ([Shape.opt "data" (.table (.orNull .bytes)), Shape.opt "stringData" Shape.table] ++ moreFields)

def ofJson? (j : Json) : Option Secret := do
  let members ← j.members?
  guard (isFixed members "apiVersion" "v1" && isFixed members "kind" "Secret")
  return {
    metadata := ← members.lenient "metadata" {} Metadata.ofJson?
    bytes := ← members.optional "data" values?
    texts := ← members.optional "stringData" Dictionary.ofJson?
    more := ← Shape.carryMembers? true moreFields members }

def toJson (s : Secret) : Json :=
  .object ([("apiVersion", .string "v1"), ("kind", .string "Secret"), ("metadata", s.metadata.toJson)]
    ++ member? "data" (fun values => .object (values.map fun (key, value) =>
        (key, .string (Text.Base64.encode value)))) s.bytes
    ++ member? "stringData" Dictionary.toJson s.texts ++ s.more)

end Secret

end ClusterBackup.Cluster
