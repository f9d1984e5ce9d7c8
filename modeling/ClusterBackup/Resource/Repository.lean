import ClusterBackup.Resource.Configuration

/-! Repositories of snapshots, and snapshots of volumes that the cluster itself takes. -/

set_option autoImplicit false

namespace ClusterBackup

open Json

/-- The backend with the path of the host applied. -/
structure RepositorySpec where
  backend : Backend
  deriving BEq, Repr

structure RepositoryStatus where
  integrity : Option Bool := none
  size : Option String := none
  snapshots : Option Int := none
  removed : Option Int := none
  first : Option Instant := none
  last : Option Instant := none
  lastDuration : Option String := none
  count : Int := 0
  deriving DecidableEq, Repr, Inhabited

structure SnapshotSpec where
  claim : Option String := none
  snapshotClass : Option String := none
  deriving DecidableEq, Repr

structure SnapshotStatus where
  ready : Option Bool := none
  size : Option String := none
  /-- An error may come without a message. -/
  error : Option (Option String) := none
  deriving DecidableEq, Repr

namespace RepositorySpec

def shape : Shape := .record "RepositorySpec" [Shape.req "backend" Backend.shape]

def ofJson? (j : Json) : Option RepositorySpec := do
  let members ← record? ["backend"] j
  return { backend := ← members.required "backend" Backend.ofJson? }

def toJson (s : RepositorySpec) : Json := .object [("backend", s.backend.toJson)]

end RepositorySpec

namespace RepositoryStatus

def shape : Shape :=
  .record "RepositoryStatus"
    ([Shape.opt "integrity" .flag, Shape.opt "size" .text]
      ++ Shape.each (.whole signed64) ["snapshotCount", "snapshotsRemovedOnLastCleanup"]
      ++ Shape.each .instant ["firstBackupTime", "lastBackupTime"]
      ++ [Shape.opt "lastBackupDuration" .text, Shape.dft "backupCount" (.whole signed64)])

def ofJson? (j : Json) : Option RepositoryStatus := do
  let members ← record? ["integrity", "size", "snapshotCount", "snapshotsRemovedOnLastCleanup",
    "firstBackupTime", "lastBackupTime", "lastBackupDuration", "backupCount"] j
  return {
    integrity := ← members.optional "integrity" bool?
    size := ← members.optional "size" text?
    snapshots := ← members.optional "snapshotCount" int64?
    removed := ← members.optional "snapshotsRemovedOnLastCleanup" int64?
    first := ← members.optional "firstBackupTime" Instant.ofJson?
    last := ← members.optional "lastBackupTime" Instant.ofJson?
    lastDuration := ← members.optional "lastBackupDuration" text?
    count := ← members.defaulted "backupCount" 0 int64? }

def toJson (s : RepositoryStatus) : Json :=
  .object (member? "integrity" .bool s.integrity ++ member? "size" .string s.size
    ++ member? "snapshotCount" .integer s.snapshots
    ++ member? "snapshotsRemovedOnLastCleanup" .integer s.removed
    ++ member? "firstBackupTime" Instant.toJson s.first
    ++ member? "lastBackupTime" Instant.toJson s.last
    ++ member? "lastBackupDuration" .string s.lastDuration ++ [("backupCount", .integer s.count)])

end RepositoryStatus

namespace SnapshotSpec

def shape : Shape :=
  .record "VolumeSnapshotSpec"
    [ Shape.req "source" (.record "VolumeSnapshotSource"
        [Shape.opt "persistentVolumeClaimName" .text]),
      Shape.opt "volumeSnapshotClassName" .text ]

def ofJson? (j : Json) : Option SnapshotSpec := do
  let members ← record? ["source", "volumeSnapshotClassName"] j
  return {
    claim := ← members.required "source" fun source => do
      (← record? ["persistentVolumeClaimName"] source).optional "persistentVolumeClaimName" text?
    snapshotClass := ← members.optional "volumeSnapshotClassName" text? }

def toJson (s : SnapshotSpec) : Json :=
  .object (("source", .object (member? "persistentVolumeClaimName" .string s.claim))
    :: member? "volumeSnapshotClassName" .string s.snapshotClass)

end SnapshotSpec

namespace SnapshotStatus

def shape : Shape :=
  .record "VolumeSnapshotStatus"
    [ Shape.opt "readyToUse" .flag, Shape.opt "restoreSize" .text,
      Shape.opt "error" (.record "VolumeSnapshotError" [Shape.opt "message" .text]) ]

def ofJson? (j : Json) : Option SnapshotStatus := do
  let members ← record? ["readyToUse", "restoreSize", "error"] j
  return {
    ready := ← members.optional "readyToUse" bool?
    size := ← members.optional "restoreSize" text?
    error := ← members.optional "error" fun error => do
      (← record? ["message"] error).optional "message" text? }

def toJson (s : SnapshotStatus) : Json :=
  .object (member? "readyToUse" .bool s.ready ++ member? "restoreSize" .string s.size
    ++ member? "error" (fun message => .object (member? "message" .string message)) s.error)

end SnapshotStatus

end ClusterBackup
