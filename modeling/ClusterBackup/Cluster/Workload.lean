import ClusterBackup.Cluster.LabelSelector
import ClusterBackup.Cluster.Pod

/-! Workloads: the five kinds of objects that keep pods of one template running. -/

set_option autoImplicit false

namespace ClusterBackup.Cluster

open Json

inductive WorkloadKind where
  | deployment
  | replicaSet
  | replicationController
  | statefulSet
  | daemonSet
  deriving DecidableEq, Repr, Inhabited

namespace WorkloadKind

def all : List WorkloadKind :=
  [.deployment, .replicaSet, .replicationController, .statefulSet, .daemonSet]

theorem mem_all (kind : WorkloadKind) : kind ∈ all := by cases kind <;> decide

def name : WorkloadKind → String
  | .deployment => "Deployment"
  | .replicaSet => "ReplicaSet"
  | .replicationController => "ReplicationController"
  | .statefulSet => "StatefulSet"
  | .daemonSet => "DaemonSet"

def lower : WorkloadKind → String
  | .deployment => "deployment"
  | .replicaSet => "replicaset"
  | .replicationController => "replicationcontroller"
  | .statefulSet => "statefulset"
  | .daemonSet => "daemonset"

/-- Other texts for a kind, in small letters. They have no letter that a capital outside
ASCII turns into. -/
def aliases : WorkloadKind → List String
  | .deployment => ["deployment", "deployments", "deploy"]
  | .replicaSet => ["replicaset", "replicasets", "rs"]
  | .replicationController => ["replicationcontroller", "replicationcontrollers", "rc"]
  | .statefulSet => ["statefulset", "statefulsets", "sts"]
  | .daemonSet => ["daemonset", "daemonsets", "ds"]

def plural (kind : WorkloadKind) : String := kind.lower ++ "s"

def apiVersion : WorkloadKind → String
  | .replicationController => "v1"
  | _ => "apps/v1"

/-- Whether changing the template replaces the pods. Of the other kinds the pods have to
be deleted to come back from the new template. -/
def rollsOnTemplateChange : WorkloadKind → Bool
  | .replicaSet | .replicationController => false
  | _ => true

/-- Kinds whose description always has a template. -/
def hasTemplate : WorkloadKind → Bool
  | .deployment | .statefulSet | .daemonSet => true
  | _ => false

def parse (s : String) : Except Failure WorkloadKind :=
  match all.find? fun kind => kind.aliases.contains (Text.lowerAscii s) with
  | some kind => .ok kind
  | none => .error (.validation ("unsupported workload kind " ++ Text.quote s
      ++ ", expected one of: " ++ Text.join ", " (all.map name)))

end WorkloadKind

/-- A claim made for every pod of a stateful set. -/
structure ClaimTemplate where
  metadata : Metadata
  spec : Option Json := none
  status : Option Json := none
  deriving BEq, Repr

structure WorkloadSpec where
  replicas : Option Int := none
  selector : Option LabelSelector := none
  serviceName : Option String := none
  template : Option PodTemplate := none
  claims : Option (List ClaimTemplate) := none
  more : Members := []
  deriving BEq, Repr, Inhabited

structure WorkloadStatus where
  observedGeneration : Option Int := none
  replicas : Option Int := none
  ready : Option Int := none
  updated : Option Int := none
  /-- Nodes that should run a pod, and those that run one or run one in vain. -/
  desired : Option Int := none
  current : Option Int := none
  misplaced : Option Int := none
  more : Members := []
  deriving BEq, Repr, Inhabited

structure Workload where
  kind : WorkloadKind
  metadata : Metadata
  spec : Option WorkloadSpec := none
  status : Option WorkloadStatus := none
  deriving BEq, Repr

namespace ClaimTemplate

def ofJson? (j : Json) : Option ClaimTemplate := do
  let members ← j.members?
  guard (isFixed members "apiVersion" "v1" && isFixed members "kind" "PersistentVolumeClaim")
  return {
    metadata := ← members.lenient "metadata" {} Metadata.ofJson?
    spec := ← members.optional "spec" (Shape.carry? Shape.claimSpec)
    status := ← members.optional "status" (Shape.carry? Shape.claimStatus) }

def toJson (c : ClaimTemplate) : Json :=
  .object ([("apiVersion", .string "v1"), ("kind", .string "PersistentVolumeClaim"),
    ("metadata", c.metadata.toJson)] ++ member? "spec" id c.spec ++ member? "status" id c.status)

end ClaimTemplate

namespace WorkloadSpec

def strategyFields : WorkloadKind → Fields
  | .deployment =>
    [ Shape.opt "strategy" (strategy "DeploymentStrategy" "RollingUpdateDeployment"
        (Shape.each .amount ["maxSurge", "maxUnavailable"])),
      Shape.opt "paused" .flag ] ++ Shape.counts ["progressDeadlineSeconds", "revisionHistoryLimit"]
  | .statefulSet =>
    [ Shape.opt "updateStrategy"
        (strategy "StatefulSetUpdateStrategy" "RollingUpdateStatefulSetStrategy"
          (Shape.opt "maxUnavailable" .amount :: Shape.counts ["partition"])),
      Shape.opt "podManagementPolicy" .text,
      Shape.opt "ordinals" (Shape.part "StatefulSetOrdinals" (Shape.counts ["start"])),
      Shape.opt "persistentVolumeClaimRetentionPolicy"
        (Shape.part "StatefulSetPersistentVolumeClaimRetentionPolicy"
          (Shape.texts ["whenDeleted", "whenScaled"])) ] ++ Shape.counts ["revisionHistoryLimit"]
  | .daemonSet =>
    Shape.opt "updateStrategy" (strategy "DaemonSetUpdateStrategy" "RollingUpdateDaemonSet"
      (Shape.each .amount ["maxSurge", "maxUnavailable"])) :: Shape.counts ["revisionHistoryLimit"]
  | _ => []
where
  strategy (name rolling : String) (fields : Fields) : Shape :=
    Shape.part name
      [Shape.opt "type" .text, Shape.opt "rollingUpdate" (Shape.part rolling fields)]

def otherFields (kind : WorkloadKind) : Fields :=
  Shape.counts ["minReadySeconds"] ++ strategyFields kind

def shape (kind : WorkloadKind) : Shape :=
  Shape.part (kind.name ++ "Spec")
    ((if kind = .daemonSet then [] else Shape.counts ["replicas"])
      ++ [ Shape.opt "selector"
            (if kind = .replicationController then Shape.table else Shape.labelSelector),
          Shape.opt "template" Shape.podTemplate ]
      ++ (if kind = .statefulSet then
            [Shape.opt "serviceName" .text, Shape.opt "volumeClaimTemplates" (.many Shape.claim)]
          else [])
      ++ otherFields kind)

/-- Replication controllers select by labels alone; the others always have a selector. -/
def selectorOf (kind : WorkloadKind) (members : Members) : Option (Option LabelSelector) :=
  if kind = .replicationController then
    members.optional "selector" fun j => (Dictionary.ofJson? j).map fun labels => { labels := some labels }
  else (members.lenient "selector" {} LabelSelector.ofJson?).map some

def ofJson? (kind : WorkloadKind) (j : Json) : Option WorkloadSpec := do
  let members ← j.members?
  return {
    replicas := ← if kind = .daemonSet then some none else members.optional "replicas" int32?
    selector := ← selectorOf kind members
    serviceName := ←
      if kind = .statefulSet then (members.lenient "serviceName" "" text?).map some else some none
    template := ←
      if kind.hasTemplate then (members.lenient "template" {} PodTemplate.ofJson?).map some
      else members.optional "template" PodTemplate.ofJson?
    claims := ←
      if kind = .statefulSet then members.optional "volumeClaimTemplates" (list? ClaimTemplate.ofJson?)
      else some none
    more := ← Shape.carryMembers? true (otherFields kind) members }

def toJson (kind : WorkloadKind) (s : WorkloadSpec) : Json :=
  .object (member? "replicas" .integer s.replicas
    ++ member? "selector" (fun selector =>
        if kind = .replicationController then (selector.labels.getD .empty).toJson
        else selector.toJson) s.selector
    ++ member? "serviceName" .string s.serviceName ++ member? "template" PodTemplate.toJson s.template
    ++ member? "volumeClaimTemplates" (fun xs => .array (xs.map ClaimTemplate.toJson)) s.claims
    ++ s.more)

end WorkloadSpec

namespace WorkloadStatus

/-- The counts of a kind: name, whether it is always written, reading and writing. -/
structure Count where
  name : String
  always : Bool
  get : WorkloadStatus → Option Int
  set : WorkloadStatus → Option Int → WorkloadStatus

def counts : WorkloadKind → List Count
  | .daemonSet =>
    [ ⟨"currentNumberScheduled", true, current, fun s n => { s with current := n }⟩,
      ⟨"desiredNumberScheduled", true, desired, fun s n => { s with desired := n }⟩,
      ⟨"numberMisscheduled", true, misplaced, fun s n => { s with misplaced := n }⟩,
      ⟨"numberReady", true, ready, fun s n => { s with ready := n }⟩,
      ⟨"updatedNumberScheduled", false, updated, fun s n => { s with updated := n }⟩ ]
  | .deployment =>
    [ ⟨"replicas", false, replicas, fun s n => { s with replicas := n }⟩,
      ⟨"readyReplicas", false, ready, fun s n => { s with ready := n }⟩,
      ⟨"updatedReplicas", false, updated, fun s n => { s with updated := n }⟩ ]
  | .statefulSet =>
    [ ⟨"replicas", true, replicas, fun s n => { s with replicas := n }⟩,
      ⟨"readyReplicas", false, ready, fun s n => { s with ready := n }⟩,
      ⟨"updatedReplicas", false, updated, fun s n => { s with updated := n }⟩ ]
  | _ =>
    [ ⟨"replicas", true, replicas, fun s n => { s with replicas := n }⟩,
      ⟨"readyReplicas", false, ready, fun s n => { s with ready := n }⟩ ]

def otherFields (kind : WorkloadKind) : Fields :=
  let conditions := Shape.opt "conditions" (.many (Shape.condition (kind.name ++ "Condition")
    (if kind = .deployment then ["lastTransitionTime", "lastUpdateTime"]
      else ["lastTransitionTime"])))
  conditions :: match kind with
    | .daemonSet => Shape.counts ["numberAvailable", "numberUnavailable", "collisionCount"]
    | .deployment => Shape.counts ["availableReplicas", "unavailableReplicas", "collisionCount"]
    | .statefulSet =>
      Shape.counts ["availableReplicas", "currentReplicas", "collisionCount"]
        ++ Shape.texts ["currentRevision", "updateRevision"]
    | _ => Shape.counts ["availableReplicas", "fullyLabeledReplicas"]

def shape (kind : WorkloadKind) : Shape :=
  Shape.part (kind.name ++ "Status")
    (Shape.opt "observedGeneration" Shape.integer64 :: Shape.counts ((counts kind).map (·.name))
      ++ otherFields kind)

def readCounts (members : Members) : List Count → WorkloadStatus → Option WorkloadStatus
  | [], s => some s
  | count :: rest, s => do
    let n ← members.optional count.name int32?
    readCounts members rest (count.set s (if count.always then some (n.getD 0) else n))

def ofJson? (kind : WorkloadKind) (j : Json) : Option WorkloadStatus := do
  let members ← j.members?
  let observed ← members.optional "observedGeneration" int64?
  let more ← Shape.carryMembers? true (otherFields kind) members
  readCounts members (counts kind) { observedGeneration := observed, more }

def toJson (kind : WorkloadKind) (s : WorkloadStatus) : Json :=
  .object (member? "observedGeneration" .integer s.observedGeneration
    ++ (counts kind).flatMap (fun count => member? count.name .integer (count.get s)) ++ s.more)

end WorkloadStatus

namespace Workload

def shape (kind : WorkloadKind) : Shape :=
  Shape.identified kind.apiVersion kind.name
    [Shape.opt "spec" (WorkloadSpec.shape kind), Shape.opt "status" (WorkloadStatus.shape kind)]

def ofJson? (kind : WorkloadKind) (j : Json) : Option Workload := do
  let members ← j.members?
  guard (isFixed members "apiVersion" kind.apiVersion && isFixed members "kind" kind.name)
  return {
    kind
    metadata := ← members.lenient "metadata" {} Metadata.ofJson?
    spec := ← members.optional "spec" (WorkloadSpec.ofJson? kind)
    status := ← members.optional "status" (WorkloadStatus.ofJson? kind) }

def toJson (w : Workload) : Json :=
  .object ([("apiVersion", .string w.kind.apiVersion), ("kind", .string w.kind.name),
    ("metadata", w.metadata.toJson)] ++ member? "spec" (WorkloadSpec.toJson w.kind) w.spec
    ++ member? "status" (WorkloadStatus.toJson w.kind) w.status)

def name (w : Workload) : String := w.metadata.anyName

def nameSpace (w : Workload) : String := w.metadata.anyNameSpace

def describe (w : Workload) : String := w.kind.name ++ " " ++ w.nameSpace ++ "/" ++ w.name

/-- Replica sets that a deployment controls follow its template and are never edited. -/
def isManaged (w : Workload) : Bool :=
  w.kind == .replicaSet
    && (w.metadata.owners.getD []).any fun o => o.controller == some true && o.kind == "Deployment"

def labels (w : Workload) : Dictionary := w.metadata.labels.getD .empty

def annotation? (w : Workload) (key : String) : Option String :=
  w.metadata.annotations.bind (·.get? key)

def reference (w : Workload) : Reference :=
  { apiVersion := w.kind.apiVersion, kind := w.kind.name, name := w.metadata.name,
    nameSpace := w.metadata.nameSpace, uid := w.metadata.uid,
    resourceVersion := w.metadata.resourceVersion }

def podSpec? (w : Workload) : Option PodSpec := do (← (← w.spec).template).spec

def withPodSpec (w : Workload) (pod : PodSpec) : Workload :=
  { w with spec := w.spec.map fun s =>
      { s with template := s.template.map fun t => { t with spec := t.spec.map fun _ => pod } } }

def selector? (w : Workload) : Option LabelSelector := w.spec.bind (·.selector)

def replicas (w : Workload) : Int := ((w.spec.bind (·.replicas)).getD 1)

/-- The controller has seen the latest generation, and every wanted pod runs the current
template and is ready. -/
def isRolledOut (w : Workload) : Bool :=
  match w.status with
  | none => false
  | some s =>
    let seen := w.metadata.generation.getD 0 ≤ s.observedGeneration.getD 0
    match w.kind with
    | .daemonSet =>
      seen && s.desired.getD 0 ≤ s.updated.getD 0 && s.desired.getD 0 ≤ s.ready.getD 0
    | .deployment | .statefulSet =>
      seen && w.replicas ≤ s.updated.getD 0 && w.replicas ≤ s.ready.getD 0
    | .replicaSet | .replicationController => seen && w.replicas ≤ s.ready.getD 0

/-- Claims of a stateful set are named after template, set and number of the pod. -/
def templateClaims (w : Workload) : List String :=
  ((w.spec.bind (·.claims)).getD []).flatMap fun claim =>
    (List.range w.replicas.toNat).map fun ordinal =>
      claim.metadata.name.getD "" ++ "-" ++ w.name ++ "-" ++ Number.textOf ordinal

def claimNames (w : Workload) : List String :=
  let direct := ((w.podSpec?.bind (·.volumes)).getD []).filterMap fun v => v.claim.map (·.name)
  if w.kind = .statefulSet then direct ++ w.templateClaims else direct

end Workload

end ClusterBackup.Cluster
