import ClusterBackup.Run.Backup

/-! Snapshots of the volumes of a workload, taken by the cluster for a session. Every claim
is a host of the session. -/

set_option autoImplicit false

namespace ClusterBackup.Snapshots

open Cluster

/-- How long a snapshot may take to become ready, and how often it is looked at. -/
structure Patience where
  timeout : Duration
  interval : Duration
  deriving DecidableEq, Repr

def snapshotOf (nameSpace configuration : String) (snapshotClass : Option String) (time : Instant)
    (claim : String) : Snapshot :=
  { metadata := { Metadata.named nameSpace (Snapshot.nameAt claim time) with
      labels := some (ownedBy configuration) }
    spec := { claim := some claim, snapshotClass } }

/-- Waits until a snapshot is ready or says why it is not. The message is that of the failure. -/
def awaitReady (patience : Patience) (nameSpace name : String) :
    Program Request (Except String Unit) := do
  let waited ← pollFor patience.timeout patience.interval
    ("VolumeSnapshot " ++ nameSpace ++ "/" ++ name ++ " not ready")
    (ExceptT.run (m := Program Request) do
      let snapshot ← Action.found (.notFound "VolumeSnapshot" nameSpace name)
        (← Action.ask (.get .snapshot nameSpace name))
      match Snapshot.errorMessage? snapshot with
      | some message => return some (Except.error message)
      | none => return if Snapshot.isReady snapshot then some (Except.ok ()) else none)
  match waited with
  | .error failure => return .error failure.message
  | .ok result => return result

/-- Where the claims of a session are recorded. -/
structure Book where
  policy : RetryPolicy
  nameSpace : String
  session : String
  object : Reference
  total : Int

/-- How many claims there are, as a signed number of 32 bits. -/
def totalOf (claims : List String) : Int := Int.bmod claims.length Number.limit32

namespace Book

def record (book : Book) (entry : HostEntry) : Action Unit := do
  let _ ← Status.reportHost book.policy .backup book.nameSpace book.session entry
    (some book.total)

def recordFailure (book : Book) (claim message : String) : Action Unit := do
  book.record { host := claim, phase := .failed, error := some message }
  Action.warning book.object "VolumeSnapshotFailed" "Snapshot" message

end Book

def createOne (book : Book) (snapshot : Snapshot) (claim : String) : Action Bool := do
  match ← Action.attempt (Action.ask (.create .snapshot snapshot)) with
  | .ok _ =>
    book.record { host := claim, phase := .running }
    return true
  | .error failure =>
    book.recordFailure claim failure.message
    return false

def awaitOne (book : Book) (patience : Patience) (claim name : String) : Action Bool := do
  let start ← Action.tell .now
  match ← ExceptT.lift (awaitReady patience book.nameSpace name) with
  | .ok () =>
    let took := (← Backup.elapsedSince start).text
    book.record { host := claim, phase := .succeeded, duration := some took }
    Action.normal book.object "VolumeSnapshotCreated" "Snapshot"
      ("VolumeSnapshot " ++ name ++ " of PVC " ++ claim ++ " is ready")
    return true
  | .error message =>
    book.recordFailure claim message
    return false

def filterEach (test : String → Action Bool) : List String → Action (List String)
  | [] => pure []
  | x :: rest => do
    let keep ← test x
    let kept ← filterEach test rest
    return if keep then x :: kept else kept

/-- All snapshots are created before the first is waited for. -/
def take (setting : Setting) (patience : Patience) (nameSpace name : String) (time : Instant) :
    Action Unit := do
  let session ← Action.found (.notFound "BackupSession" nameSpace name)
    (← Action.ask (.get .backupSession nameSpace name))
  let configName := session.spec.configuration
  let config ← Action.found (.notFound "BackupConfiguration" nameSpace configName)
    (← Action.ask (.get .configuration nameSpace configName))
  let target ← Action.found (.validation ("BackupConfiguration " ++ nameSpace ++ "/" ++ configName
    ++ " has no target to snapshot")) config.spec.target
  let kind ← Action.ofExcept (WorkloadKind.parse target.kind)
  let workload ← Action.found (.notFound kind.name nameSpace target.name)
    (← Action.ask (.workload kind nameSpace target.name))
  let claims := workload.claimNames
  if claims.isEmpty then
    throw (.validation (workload.describe ++ " has no PersistentVolumeClaims to snapshot"))
  let book : Book :=
    { policy := setting.policy, nameSpace, session := name, object := session.reference,
      total := totalOf claims }
  let pending ← filterEach (fun claim =>
    createOne book (snapshotOf nameSpace configName target.snapshotClass time claim) claim) claims
  let ready ← filterEach (fun claim =>
    awaitOne book patience claim (Snapshot.nameAt claim time)) pending
  let failed := claims.length - ready.length
  if 0 < failed then
    throw (.validation (Number.textOf failed ++ " of " ++ Number.textOf claims.length
      ++ " VolumeSnapshots failed for BackupSession " ++ nameSpace ++ "/" ++ name))

end ClusterBackup.Snapshots
