import ClusterBackup.Resource.Repository
import ClusterBackup.Resource.Session

/-! The kinds of resources that the program reads and writes, each with its description
and its status. -/

set_option autoImplicit false

namespace ClusterBackup

open Json Cluster

inductive ResourceKind where
  | configuration
  | repository
  | backupSession
  | restoreSession
  | snapshot
  deriving DecidableEq, Repr

namespace ResourceKind

def all : List ResourceKind :=
  [.configuration, .repository, .backupSession, .restoreSession, .snapshot]

theorem mem_all (kind : ResourceKind) : kind ∈ all := by cases kind <;> decide

abbrev Spec : ResourceKind → Type
  | .configuration => ConfigurationSpec
  | .repository => RepositorySpec
  | .backupSession => BackupSessionSpec
  | .restoreSession => RestoreSessionSpec
  | .snapshot => SnapshotSpec

abbrev Status : ResourceKind → Type
  | .configuration => ConfigurationStatus
  | .repository => RepositoryStatus
  | .backupSession | .restoreSession => SessionStatus
  | .snapshot => SnapshotStatus

def name : ResourceKind → String
  | .configuration => "BackupConfiguration"
  | .repository => "Repository"
  | .backupSession => "BackupSession"
  | .restoreSession => "RestoreSession"
  | .snapshot => "VolumeSnapshot"

def plural : ResourceKind → String
  | .configuration => "backupconfigurations"
  | .repository => "repositories"
  | .backupSession => "backupsessions"
  | .restoreSession => "restoresessions"
  | .snapshot => "volumesnapshots"

def group : ResourceKind → String
  | .snapshot => "snapshot.storage.k8s.io"
  | _ => "stash.dev"

def version : ResourceKind → String
  | .snapshot => "v1"
  | _ => "v1alpha1"

def apiVersion (kind : ResourceKind) : String := kind.group ++ "/" ++ kind.version

def readSpec : (kind : ResourceKind) → Json → Option kind.Spec
  | .configuration => ConfigurationSpec.ofJson?
  | .repository => RepositorySpec.ofJson?
  | .backupSession => BackupSessionSpec.ofJson?
  | .restoreSession => RestoreSessionSpec.ofJson?
  | .snapshot => SnapshotSpec.ofJson?

def writeSpec : (kind : ResourceKind) → kind.Spec → Json
  | .configuration => ConfigurationSpec.toJson
  | .repository => RepositorySpec.toJson
  | .backupSession => BackupSessionSpec.toJson
  | .restoreSession => RestoreSessionSpec.toJson
  | .snapshot => SnapshotSpec.toJson

def readStatus : (kind : ResourceKind) → Json → Option kind.Status
  | .configuration => ConfigurationStatus.ofJson?
  | .repository => RepositoryStatus.ofJson?
  | .backupSession | .restoreSession => SessionStatus.ofJson?
  | .snapshot => SnapshotStatus.ofJson?

def specShape : ResourceKind → Shape
  | .configuration => ConfigurationSpec.shape
  | .repository => RepositorySpec.shape
  | .backupSession => BackupSessionSpec.shape
  | .restoreSession => RestoreSessionSpec.shape
  | .snapshot => SnapshotSpec.shape

def statusShape : ResourceKind → Shape
  | .configuration => ConfigurationStatus.shape
  | .repository => RepositoryStatus.shape
  | .backupSession => SessionStatus.shape "BackupSessionStatus"
  | .restoreSession => SessionStatus.shape "RestoreSessionStatus"
  | .snapshot => SnapshotStatus.shape

def writeStatus : (kind : ResourceKind) → kind.Status → Json
  | .configuration => ConfigurationStatus.toJson
  | .repository => RepositoryStatus.toJson
  | .backupSession | .restoreSession => SessionStatus.toJson
  | .snapshot => SnapshotStatus.toJson

end ResourceKind

structure Resource (kind : ResourceKind) where
  metadata : Metadata
  spec : kind.Spec
  status : Option kind.Status := none

abbrev Configuration := Resource .configuration
abbrev Repository := Resource .repository
abbrev BackupSession := Resource .backupSession
abbrev RestoreSession := Resource .restoreSession
abbrev Snapshot := Resource .snapshot

def configurationLabel : String := "stash.dev/backup-configuration"

def ownedBy (configuration : String) : Dictionary :=
  Dictionary.empty.insert configurationLabel configuration

namespace Resource

variable {kind : ResourceKind}

def name (r : Resource kind) : String := r.metadata.anyName

def nameSpace (r : Resource kind) : String := r.metadata.anyNameSpace

def key (r : Resource kind) : String := r.metadata.key

def reference (r : Resource kind) : Reference :=
  { apiVersion := kind.apiVersion, kind := kind.name, name := r.metadata.name,
    nameSpace := r.metadata.nameSpace, uid := r.metadata.uid }

def shape (kind : ResourceKind) : Shape :=
  .record kind.name
    [ Shape.req "metadata" Shape.metadata, Shape.req "spec" kind.specShape,
      ("status", .nullable, kind.statusShape) ]

/-- A resource may be the list of its three parts. -/
def ofJson? (kind : ResourceKind) (j : Json) : Option (Resource kind) := do
  let members : Members ← match j with
    | .array [metadata, spec, status] =>
      some [("metadata", metadata), ("spec", spec), ("status", status)]
    | j => j.members?
  return {
    metadata := ← members.defaulted "metadata" {} Metadata.ofJson?
    spec := ← members.required "spec" kind.readSpec
    status := ← members.optional "status" kind.readStatus }

def toJson (r : Resource kind) : Json :=
  .object ([("apiVersion", .string kind.apiVersion), ("kind", .string kind.name),
    ("metadata", r.metadata.toJson), ("spec", kind.writeSpec r.spec)]
    ++ member? "status" kind.writeStatus r.status)

end Resource

namespace Repository

def ofHost (nameSpace name configuration : String) (backend : Backend) : Repository :=
  { metadata := { Metadata.named nameSpace name with labels := ownedBy configuration }
    spec := { backend } }

end Repository

namespace Snapshot

def isReady (s : Snapshot) : Bool := (s.status.bind (·.ready)).getD false

def errorMessage? (s : Snapshot) : Option String := (s.status.bind (·.error)).bind id

def nameAt (claim : String) (time : Instant) : String :=
  claim ++ "-" ++ time.stamp ++ "-stash"

end Snapshot

end ClusterBackup
