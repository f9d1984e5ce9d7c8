import ClusterBackup.Proofs.Resource.Codecs

/-! Every record of a resource is read back. -/

set_option autoImplicit false

namespace ClusterBackup

open Json Cluster

/-- The records that resources are made of. -/
inductive RecordKind where
  | backend
  | fileGroup
  | retention
  | target
  | hostEntry
  | restoreRule
  | spec (kind : ResourceKind)
  | status (kind : ResourceKind)

namespace RecordKind

abbrev Value : RecordKind → Type
  | .backend => Backend
  | .fileGroup => FileGroup
  | .retention => Retention
  | .target => Target
  | .hostEntry => HostEntry
  | .restoreRule => RestoreRule
  | .spec kind => kind.Spec
  | .status kind => kind.Status

def read : (record : RecordKind) → Json → Option record.Value
  | .backend => Backend.ofJson?
  | .fileGroup => FileGroup.ofJson?
  | .retention => Retention.ofJson?
  | .target => Target.ofJson?
  | .hostEntry => HostEntry.ofJson?
  | .restoreRule => RestoreRule.ofJson?
  | .spec kind => kind.readSpec
  | .status kind => kind.readStatus

def write : (record : RecordKind) → record.Value → Json
  | .backend => Backend.toJson
  | .fileGroup => FileGroup.toJson
  | .retention => Retention.toJson
  | .target => Target.toJson
  | .hostEntry => HostEntry.toJson
  | .restoreRule => RestoreRule.toJson
  | .spec kind => kind.writeSpec
  | .status kind => kind.writeStatus

def IsProper : (record : RecordKind) → record.Value → Prop
  | .backend => Backend.IsProper
  | .fileGroup => (·.retention.IsProper)
  | .retention => Retention.IsProper
  | .target | .hostEntry | .restoreRule => fun _ => True
  | .spec .configuration => ConfigurationSpec.IsProper
  | .spec .repository => (·.backend.IsProper)
  | .spec .backupSession | .spec .restoreSession | .spec .snapshot => fun _ => True
  | .status .configuration => ConfigurationStatus.IsProper
  | .status .repository => RepositoryStatus.IsProper
  | .status .backupSession | .status .restoreSession => SessionStatus.IsProper
  | .status .snapshot => fun _ => True

def codec : (record : RecordKind) → Codec record.Value
  | .backend => Backend.codec
  | .fileGroup => FileGroup.codec
  | .retention => Retention.codec
  | .target => Target.codec
  | .hostEntry => HostEntry.codec
  | .restoreRule => RestoreRule.codec
  | .spec .configuration => ConfigurationSpec.codec
  | .spec .repository => RepositorySpec.codec
  | .spec .backupSession => BackupSessionSpec.codec
  | .spec .restoreSession => RestoreSessionSpec.codec
  | .spec .snapshot => SnapshotSpec.codec
  | .status .configuration => ConfigurationStatus.codec
  | .status .repository => RepositoryStatus.codec
  | .status .backupSession | .status .restoreSession => SessionStatus.codec
  | .status .snapshot => SnapshotStatus.codec

theorem codec_eq (record : RecordKind) : record.codec.read = record.read ∧
    record.codec.write = record.write ∧ record.codec.Holds = record.IsProper := by
  rcases record with _ | _ | _ | _ | _ | _ | (_ | _ | _ | _ | _) | (_ | _ | _ | _ | _) <;>
    exact ⟨rfl, rfl, rfl⟩

/-- What is written of a record is read back, and so is what any JSON is read as. -/
theorem round_trips (record : RecordKind) :
    (∀ v, record.IsProper v → record.read (record.write v) = some v) ∧
      ∀ j v, record.read j = some v → record.read (record.write v) = some v := by
  obtain ⟨reads, writes, holds⟩ := record.codec_eq
  rw [← reads, ← writes, ← holds]
  exact ⟨fun _ => record.codec.back, fun _ _ => record.codec.read_back⟩

/-- The volume and the mount carry a member along. -/
def configured : ConfigurationSpec where
  groups := [{ path := "/data", tags := ["daily"], retention := { last := some 3 } }]
  backend := {
    volume := some {
      volume := { name := "repository", more := [("emptyDir", .object [("medium", .string "Memory")])] }
      mountPath := "/repository" } }
  mounts := [{ name := "data", path := "/data", more := [("readOnly", .bool true)] }]
  autoPath := .podName

theorem proper_configured : (spec .configuration).IsProper configured := by
  have volume : Shape.carryMembers? true Shape.volumeFields
      [("emptyDir", .object [("medium", .string "Memory")])] = some _ := rfl
  have mount : Shape.carryMembers? true Shape.mountFields [("readOnly", .bool true)] = some _ := rfl
  refine ⟨?groups, ?backend, ?mounts⟩
  case groups => simp [configured, Retention.IsProper, Number.limit32]
  case backend =>
    rintro v ⟨⟩
    exact Shape.carried_of_carryMembers? _ volumeFields_stable volume
  case mounts =>
    exact List.forall_mem_singleton.mpr (Shape.carried_of_carryMembers? _ mountFields_stable mount)

/-- One member is unknown and one is null, and those with a default are missing. -/
def statusGiven : Json :=
  .object [("phase", .string "Ready"), ("lastBackupTime", .string "2024-03-07 11:05:01+02:00"),
    ("lastBackupDuration", .null)]

def statusRead : ConfigurationStatus := { last := some ⟨1709802301, 0⟩ }

theorem read_statusGiven : (status .configuration).read statusGiven = some statusRead := by
  change ConfigurationStatus.ofJson? _ = _
  decide +kernel

theorem round_trips_configured :
    (spec .configuration).IsProper configured ∧
      (spec .configuration).read ((spec .configuration).write configured) = some configured ∧
      (status .configuration).read statusGiven = some statusRead ∧
      (status .configuration).read ((status .configuration).write statusRead) = some statusRead :=
  ⟨proper_configured, (round_trips (spec .configuration)).1 configured proper_configured,
    read_statusGiven,
    (round_trips (status .configuration)).2 statusGiven statusRead read_statusGiven⟩

end RecordKind

end ClusterBackup
