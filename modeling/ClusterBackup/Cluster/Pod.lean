import ClusterBackup.Cluster.Metadata
import ClusterBackup.Cluster.Shape.Pod

/-! Pods: their containers, the volumes they mount, and how far along they are. -/

set_option autoImplicit false

namespace ClusterBackup.Cluster

open Json

structure VolumeMount where
  name : String
  path : String
  more : Members := []
  deriving BEq, Repr, Inhabited

structure EnvironmentVariable where
  name : String
  value : Option String := none
  source : Option Json := none
  deriving BEq, Repr, Inhabited

structure Container where
  name : String
  image : Option String := none
  pullPolicy : Option String := none
  arguments : Option (List String) := none
  environment : Option (List EnvironmentVariable) := none
  mounts : Option (List VolumeMount) := none
  more : Members := []
  deriving BEq, Repr, Inhabited

/-- A claim on storage, by name. -/
structure ClaimReference where
  name : String
  readOnly : Option Bool := none
  deriving BEq, Repr

structure Volume where
  name : String
  claim : Option ClaimReference := none
  more : Members := []
  deriving BEq, Repr, Inhabited

structure PodSpec where
  containers : List Container
  volumes : Option (List Volume) := none
  more : Members := []
  deriving BEq, Repr, Inhabited

structure PodTemplate where
  metadata : Option Metadata := none
  spec : Option PodSpec := none
  deriving BEq, Repr, Inhabited

structure PodStatus where
  phase : Option String := none
  more : Members := []
  deriving BEq, Repr, Inhabited

structure Pod where
  metadata : Metadata
  spec : Option PodSpec := none
  status : Option PodStatus := none
  deriving BEq, Repr

namespace VolumeMount

def ofJson? (j : Json) : Option VolumeMount := do
  let members ← j.members?
  return {
    name := ← members.lenient "name" "" text?
    path := ← members.lenient "mountPath" "" text?
    more := ← Shape.carryMembers? true Shape.mountFields members }

def toJson (m : VolumeMount) : Json :=
  .object (("mountPath", .string m.path) :: ("name", .string m.name) :: m.more)

end VolumeMount

namespace EnvironmentVariable

/-- A variable whose value is a field of the pod itself. -/
def ofField (name path : String) : EnvironmentVariable :=
  { name, source := some (.object [("fieldRef", .object [("fieldPath", .string path)])]) }

def ofJson? (j : Json) : Option EnvironmentVariable := do
  let members ← j.members?
  return {
    name := ← members.lenient "name" "" text?
    value := ← members.optional "value" text?
    source := ← members.optional "valueFrom" (Shape.carry? Shape.variableSource) }

def toJson (v : EnvironmentVariable) : Json :=
  .object ([("name", .string v.name)] ++ member? "value" .string v.value
    ++ member? "valueFrom" id v.source)

end EnvironmentVariable

namespace Container

def ofJson? (j : Json) : Option Container := do
  let members ← j.members?
  return {
    name := ← members.lenient "name" "" text?
    image := ← members.optional "image" text?
    pullPolicy := ← members.optional "imagePullPolicy" text?
    arguments := ← members.optional "args" (list? text?)
    environment := ← members.optional "env" (list? EnvironmentVariable.ofJson?)
    mounts := ← members.optional "volumeMounts" (list? VolumeMount.ofJson?)
    more := ← Shape.carryMembers? true Shape.containerFields members }

def toJson (c : Container) : Json :=
  .object (member? "args" strings c.arguments
    ++ member? "env" (fun xs => .array (xs.map EnvironmentVariable.toJson)) c.environment
    ++ member? "image" .string c.image ++ member? "imagePullPolicy" .string c.pullPolicy
    ++ [("name", .string c.name)]
    ++ member? "volumeMounts" (fun xs => .array (xs.map VolumeMount.toJson)) c.mounts
    ++ c.more)

end Container

namespace ClaimReference

def ofJson? (j : Json) : Option ClaimReference := do
  let members ← j.members?
  return {
    name := ← members.lenient "claimName" "" text?
    readOnly := ← members.optional "readOnly" bool? }

def toJson (c : ClaimReference) : Json :=
  .object (("claimName", .string c.name) :: member? "readOnly" .bool c.readOnly)

end ClaimReference

namespace Volume

def ofJson? (j : Json) : Option Volume := do
  let members ← j.members?
  return {
    name := ← members.lenient "name" "" text?
    claim := ← members.optional "persistentVolumeClaim" ClaimReference.ofJson?
    more := ← Shape.carryMembers? true Shape.volumeFields members }

def toJson (v : Volume) : Json :=
  .object (("name", .string v.name) :: member? "persistentVolumeClaim" ClaimReference.toJson v.claim
    ++ v.more)

end Volume

namespace PodSpec

def ofJson? (j : Json) : Option PodSpec := do
  let members ← j.members?
  return {
    containers := ← members.lenient "containers" [] (list? Container.ofJson?)
    volumes := ← members.optional "volumes" (list? Volume.ofJson?)
    more := ← Shape.carryMembers? true Shape.podFields members }

def toJson (s : PodSpec) : Json :=
  .object (("containers", .array (s.containers.map Container.toJson))
    :: member? "volumes" (fun xs => .array (xs.map Volume.toJson)) s.volumes ++ s.more)

end PodSpec

namespace PodTemplate

def ofJson? (j : Json) : Option PodTemplate := do
  let members ← j.members?
  return {
    metadata := ← members.optional "metadata" Metadata.ofJson?
    spec := ← members.optional "spec" PodSpec.ofJson? }

def toJson (t : PodTemplate) : Json :=
  .object (member? "metadata" Metadata.toJson t.metadata ++ member? "spec" PodSpec.toJson t.spec)

end PodTemplate

/-- A member that, where it is given, has to be a certain text. -/
def isFixed (members : Members) (name expected : String) : Bool :=
  match members.get? name with
  | none => true
  | some j => j.text? == some expected

namespace PodStatus

def ofJson? (j : Json) : Option PodStatus := do
  let members ← j.members?
  return {
    phase := ← members.optional "phase" text?
    more := ← Shape.carryMembers? true Shape.podStatusFields members }

def toJson (s : PodStatus) : Json := .object (member? "phase" .string s.phase ++ s.more)

end PodStatus

namespace Pod

def phase (p : Pod) : Option String := p.status.bind (·.phase)

def ofJson? (j : Json) : Option Pod := do
  let members ← j.members?
  guard (isFixed members "apiVersion" "v1" && isFixed members "kind" "Pod")
  return {
    metadata := ← members.lenient "metadata" {} Metadata.ofJson?
    spec := ← members.optional "spec" PodSpec.ofJson?
    status := ← members.optional "status" PodStatus.ofJson? }

def toJson (p : Pod) : Json :=
  .object ([("apiVersion", .string "v1"), ("kind", .string "Pod"), ("metadata", p.metadata.toJson)]
    ++ member? "spec" PodSpec.toJson p.spec ++ member? "status" PodStatus.toJson p.status)

end Pod

end ClusterBackup.Cluster
