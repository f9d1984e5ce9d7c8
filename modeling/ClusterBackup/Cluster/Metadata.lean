import ClusterBackup.Cluster.Shape.Object
import ClusterBackup.Text.Dictionary

/-! What every object of a cluster says about itself. -/

set_option autoImplicit false

namespace ClusterBackup.Cluster

open Json

structure Owner where
  apiVersion : String
  kind : String
  name : String
  uid : String
  controller : Option Bool := none
  blockDeletion : Option Bool := none
  deriving BEq, Repr

structure Metadata where
  name : Option String := none
  generateName : Option String := none
  nameSpace : Option String := none
  uid : Option String := none
  labels : Option Dictionary := none
  annotations : Option Dictionary := none
  resourceVersion : Option String := none
  generation : Option Int := none
  deletion : Option Instant := none
  owners : Option (List Owner) := none
  more : Members := []
  deriving BEq, Repr, Inhabited

/-- What an event is attached to. -/
structure Reference where
  apiVersion : Option String := none
  kind : Option String := none
  name : Option String := none
  nameSpace : Option String := none
  uid : Option String := none
  resourceVersion : Option String := none
  fieldPath : Option String := none
  deriving DecidableEq, Repr

namespace Owner

def ofJson? (j : Json) : Option Owner := do
  let members ← j.members?
  return {
    apiVersion := ← members.lenient "apiVersion" "" text?
    kind := ← members.lenient "kind" "" text?
    name := ← members.lenient "name" "" text?
    uid := ← members.lenient "uid" "" text?
    controller := ← members.optional "controller" bool?
    blockDeletion := ← members.optional "blockOwnerDeletion" bool? }

def toJson (o : Owner) : Json :=
  .object ([("apiVersion", .string o.apiVersion)] ++ member? "blockOwnerDeletion" .bool o.blockDeletion
    ++ member? "controller" .bool o.controller
    ++ [("kind", .string o.kind), ("name", .string o.name), ("uid", .string o.uid)])

end Owner

namespace Metadata

def named (nameSpace name : String) : Metadata :=
  { name := some name, nameSpace := some nameSpace }

/-- The name, or the beginning of a name yet to be chosen. -/
def anyName (m : Metadata) : String := (m.name <|> m.generateName).getD ""

def anyNameSpace (m : Metadata) : String := m.nameSpace.getD ""

def key (m : Metadata) : String := m.anyNameSpace ++ "/" ++ m.anyName

def ofJson? (j : Json) : Option Metadata := do
  let members ← j.members?
  return {
    name := ← members.optional "name" text?
    generateName := ← members.optional "generateName" text?
    nameSpace := ← members.optional "namespace" text?
    uid := ← members.optional "uid" text?
    labels := ← members.optional "labels" Dictionary.ofJson?
    annotations := ← members.optional "annotations" Dictionary.ofJson?
    resourceVersion := ← members.optional "resourceVersion" text?
    generation := ← members.optional "generation" int64?
    deletion := ← members.optional "deletionTimestamp" fun j => j.text?.bind Instant.parse
    owners := ← members.optional "ownerReferences" (list? Owner.ofJson?)
    more := ← Shape.carryMembers? true Shape.metadataFields members }

def toJson (m : Metadata) : Json :=
  .object (member? "name" .string m.name ++ member? "generateName" .string m.generateName
    ++ member? "namespace" .string m.nameSpace ++ member? "uid" .string m.uid
    ++ member? "labels" Dictionary.toJson m.labels
    ++ member? "annotations" Dictionary.toJson m.annotations
    ++ member? "resourceVersion" .string m.resourceVersion
    ++ member? "generation" .integer m.generation
    ++ member? "deletionTimestamp" (fun t => .string t.textInSeconds) m.deletion
    ++ member? "ownerReferences" (fun owners => .array (owners.map Owner.toJson)) m.owners
    ++ m.more)

end Metadata

namespace Reference

def ofJson? (j : Json) : Option Reference := do
  let members ← j.members?
  return {
    apiVersion := ← members.optional "apiVersion" text?
    kind := ← members.optional "kind" text?
    name := ← members.optional "name" text?
    nameSpace := ← members.optional "namespace" text?
    uid := ← members.optional "uid" text?
    resourceVersion := ← members.optional "resourceVersion" text?
    fieldPath := ← members.optional "fieldPath" text? }

def toJson (r : Reference) : Json :=
  .object (member? "apiVersion" .string r.apiVersion ++ member? "fieldPath" .string r.fieldPath
    ++ member? "kind" .string r.kind ++ member? "name" .string r.name
    ++ member? "namespace" .string r.nameSpace
    ++ member? "resourceVersion" .string r.resourceVersion ++ member? "uid" .string r.uid)

end Reference

end ClusterBackup.Cluster
