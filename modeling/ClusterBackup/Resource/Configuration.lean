import ClusterBackup.Cluster.LabelSelector
import ClusterBackup.Resource.Backend
import ClusterBackup.Resource.Retention

/-! What to back up, from which workloads, when, and where to. -/

set_option autoImplicit false

namespace ClusterBackup

open Json Cluster

/-- One path with the tags of its snapshots, and what is kept of them. -/
structure FileGroup where
  path : String
  tags : List String := []
  retention : Retention := {}
  deriving DecidableEq, Repr

/-- One workload, and the class of the snapshots of its volumes. -/
structure Target where
  kind : String
  name : String
  snapshotClass : Option String := none
  deriving DecidableEq, Repr

/-- Which path is appended to a backend to keep the repositories of hosts apart. -/
inductive AutoPath where
  | smart
  | nodeName
  | podName
  | off
  deriving DecidableEq, Repr, Inhabited

structure ConfigurationSpec where
  target : Option Target := none
  selector : Option LabelSelector := none
  groups : List FileGroup := []
  backend : Backend
  schedule : String := ""
  mounts : List VolumeMount := []
  autoPath : AutoPath := .smart
  paused : Bool := false
  deriving BEq, Repr

structure ConfigurationStatus where
  first : Option Instant := none
  last : Option Instant := none
  lastSuccess : Option Instant := none
  lastDuration : Option String := none
  count : Int := 0
  deriving DecidableEq, Repr, Inhabited

def Instant.ofJson? (j : Json) : Option Instant := j.text?.bind Instant.parse

def Instant.toJson (t : Instant) : Json := .string t.text

namespace FileGroup

def shape : Shape :=
  .record "FileGroup"
    [ Shape.req "path" .text, Shape.dft "tags" (.many .text),
      Shape.dft "retentionPolicy" Retention.shape ]

def ofJson? (j : Json) : Option FileGroup := do
  let members ← record? ["path", "tags", "retentionPolicy"] j
  return {
    path := ← members.required "path" text?
    tags := ← members.defaulted "tags" [] (list? text?)
    retention := ← members.defaulted "retentionPolicy" {} Retention.ofJson? }

def toJson (g : FileGroup) : Json :=
  .object (("path", .string g.path) :: memberUnlessEmpty "tags" .string g.tags
    ++ [("retentionPolicy", g.retention.toJson)])

end FileGroup

namespace Target

def shape : Shape :=
  .record "TargetRef"
    [ Shape.req "kind" .text, Shape.req "name" .text,
      Shape.opt "volumeSnapshotClassName" .text ]

def ofJson? (j : Json) : Option Target := do
  let members ← record? ["kind", "name", "volumeSnapshotClassName"] j
  return {
    kind := ← members.required "kind" text?
    name := ← members.required "name" text?
    snapshotClass := ← members.optional "volumeSnapshotClassName" text? }

def toJson (t : Target) : Json :=
  .object ([("kind", .string t.kind), ("name", .string t.name)]
    ++ member? "volumeSnapshotClassName" .string t.snapshotClass)

end Target

namespace AutoPath

def all : List AutoPath := [.smart, .nodeName, .podName, .off]

theorem mem_all (a : AutoPath) : a ∈ all := by cases a <;> decide

def name : AutoPath → String
  | .smart => "Smart"
  | .nodeName => "NodeName"
  | .podName => "PodName"
  | .off => "None"

def shape : Shape := .choice (all.map name)

def ofJson? : Json → Option AutoPath := choice? (all.map fun a => (a.name, a))

def toJson (a : AutoPath) : Json := .string a.name

end AutoPath

namespace ConfigurationSpec

def checkTarget (t : Target) : Except Failure Unit :=
  if t.kind = "" ∨ t.name = "" then .error (.validation "target requires kind and name") else .ok ()

/-- The first path that is not absolute, counted from a position. -/
def checkPaths (position : Nat) : List FileGroup → Except Failure Unit
  | [] => .ok ()
  | g :: rest =>
    if g.path.toList.head? = some '/' then checkPaths (position + 1) rest
    else .error (.validation ("fileGroups[" ++ Number.textOf position
      ++ "].path must be absolute, got " ++ Text.quote g.path))

def validate (s : ConfigurationSpec) : Except Failure Unit := do
  let _ ← s.backend.provider
  if s.backend.secretName = "" then throw (.validation "backend.storageSecretName is required")
  if s.target.isNone && s.selector.isNone then
    throw (.validation "either target or selector must be specified")
  match s.target with
  | some t => checkTarget t
  | none => pure ()
  checkPaths 0 s.groups

def shape : Shape :=
  .record "BackupConfigurationSpec"
    [ Shape.opt "target" Target.shape, Shape.opt "selector" Shape.labelSelector,
      Shape.dft "fileGroups" (.many FileGroup.shape), Shape.req "backend" Backend.shape,
      Shape.dft "schedule" .text, Shape.dft "volumeMounts" (.many Shape.mount),
      Shape.dft "useAutoPrefix" AutoPath.shape, Shape.dft "paused" .flag ]

def ofJson? (j : Json) : Option ConfigurationSpec := do
  let members ← record? ["target", "selector", "fileGroups", "backend", "schedule", "volumeMounts",
    "useAutoPrefix", "paused"] j
  return {
    target := ← members.optional "target" Target.ofJson?
    selector := ← members.optional "selector" LabelSelector.ofJson?
    groups := ← members.defaulted "fileGroups" [] (list? FileGroup.ofJson?)
    backend := ← members.required "backend" Backend.ofJson?
    schedule := ← members.defaulted "schedule" "" text?
    mounts := ← members.defaulted "volumeMounts" [] (list? VolumeMount.ofJson?)
    autoPath := ← members.defaulted "useAutoPrefix" .smart AutoPath.ofJson?
    paused := ← members.defaulted "paused" false bool? }

def toJson (s : ConfigurationSpec) : Json :=
  .object (member? "target" Target.toJson s.target ++ member? "selector" LabelSelector.toJson s.selector
    ++ [("fileGroups", .array (s.groups.map FileGroup.toJson)), ("backend", s.backend.toJson),
        ("schedule", .string s.schedule)]
    ++ memberUnlessEmpty "volumeMounts" VolumeMount.toJson s.mounts
    ++ [("useAutoPrefix", s.autoPath.toJson), ("paused", .bool s.paused)])

end ConfigurationSpec

namespace ConfigurationStatus

def shape : Shape :=
  .record "BackupConfigurationStatus"
    (Shape.each .instant ["firstBackupTime", "lastBackupTime", "lastSuccessfulBackupTime"]
      ++ [Shape.opt "lastBackupDuration" .text, Shape.dft "backupCount" (.whole signed64)])

def ofJson? (j : Json) : Option ConfigurationStatus := do
  let members ← record? ["firstBackupTime", "lastBackupTime", "lastSuccessfulBackupTime",
    "lastBackupDuration", "backupCount"] j
  return {
    first := ← members.optional "firstBackupTime" Instant.ofJson?
    last := ← members.optional "lastBackupTime" Instant.ofJson?
    lastSuccess := ← members.optional "lastSuccessfulBackupTime" Instant.ofJson?
    lastDuration := ← members.optional "lastBackupDuration" text?
    count := ← members.defaulted "backupCount" 0 int64? }

def toJson (s : ConfigurationStatus) : Json :=
  .object (member? "firstBackupTime" Instant.toJson s.first
    ++ member? "lastBackupTime" Instant.toJson s.last
    ++ member? "lastSuccessfulBackupTime" Instant.toJson s.lastSuccess
    ++ member? "lastBackupDuration" .string s.lastDuration ++ [("backupCount", .integer s.count)])

end ConfigurationStatus

end ClusterBackup
