import ClusterBackup.Proofs.Cluster.Codecs
import ClusterBackup.Resource.Resource

/-! The codecs of resources: of what they describe, of their statuses, and of the records in these.

A value is proper if it can be there: a number is one of its range, a point in time has a date, and
what is carried along of a volume is what volumes have. -/

set_option autoImplicit false

namespace ClusterBackup

open Json Cluster

/-! ### Backends -/

/-- A path that is left out where it is empty. -/
def pathPart : Json.Part String :=
  .defaulted "prefix" "" .text (· = "") (fun _ => of_decide_eq_true) (Codec.text_holds _)

@[simps! -fullyApplied read write Holds]
def VolumeBackend.codec : Codec VolumeBackend :=
  ((Part.required "volume" Volume.codec).both (.required "mountPath" .text)).iso
    (fun (volume, mountPath) => { volume, mountPath }) (fun v => (v.volume, v.mountPath))
    (fun _ => rfl) (fun _ => rfl)
  |>.record (by decide) |>.as ofJson? toJson (·.volume.IsProper)
    (by simp [ofJson?, Option.bind_assoc])
    (by simp [toJson])
    (by simp)

@[simps! -fullyApplied read write Holds]
def S3Backend.codec : Codec S3Backend :=
  ((Part.required "endpoint" .text).both <| (Part.required "bucket" .text).both pathPart).iso
    (fun (endpoint, bucket, path) => { endpoint, bucket, path })
    (fun s => (s.endpoint, s.bucket, s.path)) (fun _ => rfl) (fun _ => rfl)
  |>.record (by decide) |>.as ofJson? toJson (fun _ => True)
    (by simp [ofJson?, pathPart, Option.bind_assoc])
    (by simp [toJson, pathPart, pathMember])
    (by simp [pathPart])

@[simps! -fullyApplied read write Holds]
def Bucket.codec (nameMember : String) (other : nameMember ≠ "prefix") : Codec Bucket :=
  ((Part.required nameMember .text).both pathPart).iso
    (fun (name, path) => { name, path }) (fun b => (b.name, b.path)) (fun _ => rfl) (fun _ => rfl)
  |>.record (by simpa [pathPart] using other)
  |>.as (ofJson? nameMember) (toJson nameMember) (fun _ => True)
    (by simp [ofJson?, pathPart, Option.bind_assoc])
    (by simp [toJson, pathPart, pathMember])
    (by simp [pathPart])

def Backend.IsProper (b : Backend) : Prop := ∀ v ∈ b.volume, v.volume.IsProper

@[simps! -fullyApplied read write Holds]
def Backend.codec : Codec Backend :=
  ((Part.optional "local" VolumeBackend.codec).both <| (Part.optional "s3" S3Backend.codec).both <|
    (Part.optional "gcs" (Bucket.codec "bucket" (by decide))).both <|
    (Part.optional "azure" (Bucket.codec "container" (by decide))).both <|
    (Part.optional "swift" (Bucket.codec "container" (by decide))).both <|
    (Part.optional "b2" (Bucket.codec "bucket" (by decide))).both <|
    (Part.optional "rest" ((Part.required "url" .text).record (by decide))).both <|
    .written "storageSecretName" "" .text (Codec.text_holds _)).iso
    (fun (volume, s3, gcs, azure, swift, b2, rest, secretName) =>
      { volume, s3, gcs, azure, swift, b2, rest, secretName })
    (fun b => (b.volume, b.s3, b.gcs, b.azure, b.swift, b.b2, b.rest, b.secretName))
    (fun _ => rfl) (fun _ => rfl)
  |>.record (by decide) |>.as ofJson? toJson IsProper
    (by simp [ofJson?, Option.bind_assoc])
    (by simp [toJson])
    (by simp [IsProper])

/-! ### Configurations -/

/-- The counts have 32 bits. -/
def Retention.IsProper (r : Retention) : Prop :=
  ∀ count ∈ [r.last, r.hourly, r.daily, r.weekly, r.monthly, r.yearly], ∀ n ∈ count,
    n < Number.limit32

@[simps! -fullyApplied read write Holds]
def Retention.codec : Codec Retention :=
  ((Part.optional "keepLast" .nat32).both <| (Part.optional "keepHourly" .nat32).both <|
    (Part.optional "keepDaily" .nat32).both <| (Part.optional "keepWeekly" .nat32).both <|
    (Part.optional "keepMonthly" .nat32).both <| (Part.optional "keepYearly" .nat32).both <|
    (Part.unlessEmpty "keepTags" .text).both <| (Part.written "prune" false .flag (Codec.flag_holds _)).both <|
    .written "dryRun" false .flag (Codec.flag_holds _)).iso
    (fun (last, hourly, daily, weekly, monthly, yearly, tags, prune, dryRun) =>
      { last, hourly, daily, weekly, monthly, yearly, tags, prune, dryRun })
    (fun r => (r.last, r.hourly, r.daily, r.weekly, r.monthly, r.yearly, r.tags, r.prune, r.dryRun))
    (fun _ => rfl) (fun _ => rfl)
  |>.record (by decide) |>.as ofJson? toJson IsProper
    (by simp [ofJson?, Option.bind_assoc])
    (by simp [toJson])
    (by simp [IsProper])

theorem Retention.holds_default : Retention.codec.Holds {} := by simp [IsProper]

@[simps! -fullyApplied read write Holds]
def FileGroup.codec : Codec FileGroup :=
  ((Part.required "path" .text).both <| (Part.unlessEmpty "tags" .text).both <|
    .written "retentionPolicy" {} Retention.codec Retention.holds_default).iso
    (fun (path, tags, retention) => { path, tags, retention })
    (fun g => (g.path, g.tags, g.retention)) (fun _ => rfl) (fun _ => rfl)
  |>.record (by decide) |>.as ofJson? toJson (·.retention.IsProper)
    (by simp [ofJson?, Option.bind_assoc])
    (by simp [toJson])
    (by simp)

@[simps! -fullyApplied read write Holds]
def Target.codec : Codec Target :=
  ((Part.required "kind" .text).both <| (Part.required "name" .text).both <|
    .optional "volumeSnapshotClassName" .text).iso
    (fun (kind, name, snapshotClass) => { kind, name, snapshotClass })
    (fun t => (t.kind, t.name, t.snapshotClass)) (fun _ => rfl) (fun _ => rfl)
  |>.record (by decide) |>.as ofJson? toJson (fun _ => True)
    (by simp [ofJson?, Option.bind_assoc])
    (by simp [toJson])
    (by simp)

theorem AutoPath.name_injective : Function.Injective AutoPath.name := by
  intro a b
  cases a <;> cases b <;> decide

@[simps! -fullyApplied read write Holds]
def AutoPath.codec : Codec AutoPath :=
  (Codec.choice all name mem_all name_injective).as ofJson? toJson (fun _ => True)
    (fun _ => rfl) (fun _ => rfl) (by simp)

theorem AutoPath.holds_codec (a : AutoPath) : codec.Holds a := trivial

def ConfigurationSpec.IsProper (s : ConfigurationSpec) : Prop :=
  (∀ g ∈ s.groups, g.retention.IsProper) ∧ s.backend.IsProper ∧ ∀ m ∈ s.mounts, m.IsProper

@[simps! -fullyApplied read write Holds]
def ConfigurationSpec.codec : Codec ConfigurationSpec :=
  ((Part.optional "target" Target.codec).both <| (Part.optional "selector" LabelSelector.codec).both <|
    (Part.written "fileGroups" [] (.list FileGroup.codec) (Codec.list_holds_nil _)).both <|
    (Part.required "backend" Backend.codec).both <|
    (Part.written "schedule" "" .text (Codec.text_holds _)).both <|
    (Part.unlessEmpty "volumeMounts" VolumeMount.codec).both <|
    (Part.written "useAutoPrefix" .smart AutoPath.codec (AutoPath.holds_codec _)).both <|
    .written "paused" false .flag (Codec.flag_holds _)).iso
    (fun (target, selector, groups, backend, schedule, mounts, autoPath, paused) =>
      { target, selector, groups, backend, schedule, mounts, autoPath, paused })
    (fun s => (s.target, s.selector, s.groups, s.backend, s.schedule, s.mounts, s.autoPath, s.paused))
    (fun _ => rfl) (fun _ => rfl)
  |>.record (by decide) |>.as ofJson? toJson IsProper
    (by simp [ofJson?, Option.bind_assoc])
    (by simp [toJson])
    (by simp [IsProper])

def ConfigurationStatus.IsProper (s : ConfigurationStatus) : Prop :=
  (∀ time ∈ [s.first, s.last, s.lastSuccess], ∀ t ∈ time, t.IsProper) ∧
    Number.least64 ≤ s.count ∧ s.count ≤ Number.greatest64

@[simps! -fullyApplied read write Holds]
def ConfigurationStatus.codec : Codec ConfigurationStatus :=
  ((Part.optional "firstBackupTime" Instant.codec).both <|
    (Part.optional "lastBackupTime" Instant.codec).both <|
    (Part.optional "lastSuccessfulBackupTime" Instant.codec).both <|
    (Part.optional "lastBackupDuration" .text).both <|
    .written "backupCount" 0 .int64 Codec.int64_holds_zero).iso
    (fun (first, last, lastSuccess, lastDuration, count) =>
      { first, last, lastSuccess, lastDuration, count })
    (fun s => (s.first, s.last, s.lastSuccess, s.lastDuration, s.count)) (fun _ => rfl) (fun _ => rfl)
  |>.record (by decide) |>.as ofJson? toJson IsProper
    (by simp [ofJson?, Option.bind_assoc])
    (by simp [toJson])
    (by simp [IsProper, and_assoc])

/-! ### Repositories -/

@[simps! -fullyApplied read write Holds]
def RepositorySpec.codec : Codec RepositorySpec :=
  (Part.required "backend" Backend.codec).iso (fun backend => { backend }) (·.backend)
    (fun _ => rfl) (fun _ => rfl)
  |>.record (by decide) |>.as ofJson? toJson (·.backend.IsProper)
    (by simp [ofJson?])
    (by simp [toJson])
    (by simp)

def RepositoryStatus.IsProper (s : RepositoryStatus) : Prop :=
  (∀ number ∈ [s.snapshots, s.removed, some s.count], ∀ n ∈ number,
    Number.least64 ≤ n ∧ n ≤ Number.greatest64) ∧
    ∀ time ∈ [s.first, s.last], ∀ t ∈ time, t.IsProper

@[simps! -fullyApplied read write Holds]
def RepositoryStatus.codec : Codec RepositoryStatus :=
  ((Part.optional "integrity" .flag).both <| (Part.optional "size" .text).both <|
    (Part.optional "snapshotCount" .int64).both <|
    (Part.optional "snapshotsRemovedOnLastCleanup" .int64).both <|
    (Part.optional "firstBackupTime" Instant.codec).both <|
    (Part.optional "lastBackupTime" Instant.codec).both <|
    (Part.optional "lastBackupDuration" .text).both <|
    .written "backupCount" 0 .int64 Codec.int64_holds_zero).iso
    (fun (integrity, size, snapshots, removed, first, last, lastDuration, count) =>
      { integrity, size, snapshots, removed, first, last, lastDuration, count })
    (fun s => (s.integrity, s.size, s.snapshots, s.removed, s.first, s.last, s.lastDuration, s.count))
    (fun _ => rfl) (fun _ => rfl)
  |>.record (by decide) |>.as ofJson? toJson IsProper
    (by simp [ofJson?, Option.bind_assoc])
    (by simp [toJson])
    (by simp [IsProper]; grind)

/-! ### Sessions -/

@[simps! -fullyApplied read write Holds]
def BackupSessionSpec.codec : Codec BackupSessionSpec :=
  (Part.required "backupConfiguration" .text).iso (fun configuration => { configuration })
    (·.configuration) (fun _ => rfl) (fun _ => rfl)
  |>.record (by decide) |>.as ofJson? toJson (fun _ => True)
    (by simp [ofJson?])
    (by simp [toJson])
    (by simp)

@[simps! -fullyApplied read write Holds]
def RestoreRule.codec : Codec RestoreRule :=
  ((Part.unlessEmpty "targetHosts" .text).both <| (Part.optional "sourceHost" .text).both <|
    (Part.unlessEmpty "paths" .text).both <| .unlessEmpty "snapshots" .text).iso
    (fun (targets, source, paths, snapshots) => { targets, source, paths, snapshots })
    (fun r => (r.targets, r.source, r.paths, r.snapshots)) (fun _ => rfl) (fun _ => rfl)
  |>.record (by decide) |>.as ofJson? toJson (fun _ => True)
    (by simp [ofJson?, Option.bind_assoc])
    (by simp [toJson])
    (by simp)

@[simps! -fullyApplied read write Holds]
def RestoreSessionSpec.codec : Codec RestoreSessionSpec :=
  ((Part.required "repository" .text).both <|
    .written "rules" [] (.list RestoreRule.codec) (Codec.list_holds_nil _)).iso
    (fun (repository, rules) => { repository, rules }) (fun s => (s.repository, s.rules))
    (fun _ => rfl) (fun _ => rfl)
  |>.record (by decide) |>.as ofJson? toJson (fun _ => True)
    (by simp [ofJson?, Option.bind_assoc])
    (by simp [toJson])
    (by simp)

theorem Phase.name_injective : Function.Injective Phase.name := by
  intro a b
  cases a <;> cases b <;> decide

@[simps! -fullyApplied read write Holds]
def Phase.codec : Codec Phase :=
  (Codec.choice all name mem_all name_injective).as ofJson? toJson (fun _ => True)
    (fun _ => rfl) (fun _ => rfl) (by simp)

theorem Phase.holds_codec (phase : Phase) : codec.Holds phase := trivial

@[simps! -fullyApplied read write Holds]
def HostEntry.codec : Codec HostEntry :=
  ((Part.required "hostname" .text).both <| (Part.required "phase" Phase.codec).both <|
    (Part.optional "duration" .text).both <| .optional "error" .text).iso
    (fun (host, phase, duration, error) => { host, phase, duration, error })
    (fun e => (e.host, e.phase, e.duration, e.error)) (fun _ => rfl) (fun _ => rfl)
  |>.record (by decide) |>.as ofJson? toJson (fun _ => True)
    (by simp [ofJson?, Option.bind_assoc])
    (by simp [toJson])
    (by simp)

def SessionStatus.IsProper (s : SessionStatus) : Prop :=
  ∀ n ∈ s.totalHosts, Number.least32 ≤ n ∧ n ≤ Number.greatest32

@[simps! -fullyApplied read write Holds]
def SessionStatus.codec : Codec SessionStatus :=
  ((Part.written "phase" .pending Phase.codec (Phase.holds_codec _)).both <|
    (Part.optional "totalHosts" .int32).both <| .unlessEmpty "hosts" HostEntry.codec).iso
    (fun (phase, totalHosts, hosts) => { phase, totalHosts, hosts })
    (fun s => (s.phase, s.totalHosts, s.hosts)) (fun _ => rfl) (fun _ => rfl)
  |>.record (by decide) |>.as ofJson? toJson IsProper
    (by simp [ofJson?, Option.bind_assoc])
    (by simp [toJson])
    (by simp [IsProper])

/-! ### Snapshots of volumes -/

@[simps! -fullyApplied read write Holds]
def SnapshotSpec.codec : Codec SnapshotSpec :=
  ((Part.required "source"
      ((Part.optional "persistentVolumeClaimName" .text).record (by decide))).both <|
    .optional "volumeSnapshotClassName" .text).iso
    (fun (claim, snapshotClass) => { claim, snapshotClass }) (fun s => (s.claim, s.snapshotClass))
    (fun _ => rfl) (fun _ => rfl)
  |>.record (by decide) |>.as ofJson? toJson (fun _ => True)
    (by simp [ofJson?, Option.bind_assoc])
    (by simp [toJson])
    (by simp)

@[simps! -fullyApplied read write Holds]
def SnapshotStatus.codec : Codec SnapshotStatus :=
  ((Part.optional "readyToUse" .flag).both <| (Part.optional "restoreSize" .text).both <|
    .optional "error" ((Part.optional "message" .text).record (by decide))).iso
    (fun (ready, size, error) => { ready, size, error }) (fun s => (s.ready, s.size, s.error))
    (fun _ => rfl) (fun _ => rfl)
  |>.record (by decide) |>.as ofJson? toJson (fun _ => True)
    (by simp [ofJson?, Option.bind_assoc])
    (by simp [toJson])
    (by simp)

end ClusterBackup
