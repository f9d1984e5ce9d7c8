import ClusterBackup.CronTable
import ClusterBackup.Request
import ClusterBackup.Run.Backup
import ClusterBackup.Simulation.Fault
import ClusterBackup.Simulation.Files
import ClusterBackup.Simulation.Store
import ClusterBackup.Simulation.Workloads
import ClusterBackup.Watch.Requeue

/-! A small cluster in memory, and how it answers the requests of programs. Its clock counts
milliseconds and moves only while programs sleep; its calendar stands still. -/

set_option autoImplicit false

namespace ClusterBackup.Simulation

open Cluster

/-- What the backup tool does when it is called: output or failure, after some time. -/
structure Reaction where
  milliseconds : Nat := 0
  outcome : Except String String

/-- Reactions by command, one for each call, the last one for all further calls. -/
structure Script where
  command : String
  reactions : List Reaction
  calls : Nat := 0

/-- Volume snapshots of a claim get a status at a certain call that reads them. -/
structure Driver where
  claim : String
  after : Nat := 1
  status : SnapshotStatus

structure World where
  clock : Nat := 0
  setting : Setting
  host : Host
  store : Store := {}
  workloads : Workloads := {}
  files : Files := {}
  faults : List Fault := []
  drivers : List Driver := []
  snapshotReads : List (String × String) := []
  scripts : List Script := []
  calls : List Invocation := []
  events : List Event := []
  gate : Gate := {}
  table : CronTable := {}
  requeues : Requeues
  /-- Runs that are asked for and not yet begun. -/
  started : List (String × String × Instant) := []

/-- The day on which the calendar stands still. -/
def today : Instant := Instant.ofDateTime ⟨2599, 1, 1⟩ ⟨0, 0, 0⟩

/-- Times of the calendar and the year after it. -/
def isToday (t : Instant) : Bool :=
  today.le t && t.le (today.advance (Duration.ofSeconds (366 * 86400)))

def milliseconds (d : Duration) : Nat := (d.nanos + 999999) / 1000000

namespace Script

/-- The reaction to the next call of a command. -/
def next (command : String) : List Script → Reaction × List Script
  | [] => (⟨0, .ok ""⟩, [])
  | s :: rest =>
    if s.command = command then
      ((s.reactions[s.calls]? <|> s.reactions.getLast?).getD ⟨0, .ok ""⟩,
        { s with calls := s.calls + 1 } :: rest)
    else
      let (reaction, rest) := next command rest
      (reaction, s :: rest)

end Script

/-- A reply, and the milliseconds until it arrives. -/
structure Reply (β : Type) where
  value : β
  wait : Option Nat := none

namespace World

def empty (setting : Setting) (host : Host) : World :=
  { setting, host, requeues := { limit := setting.options.maxRequeues } }

def getMethod : ResourceKind → String
  | .configuration => "get_backup_configuration"
  | .repository => "get_repository"
  | .backupSession => "get_backup_session"
  | .restoreSession => "get_restore_session"
  | .snapshot => "get_volume_snapshot"

def createMethod : ResourceKind → String
  | .snapshot => "create_volume_snapshot"
  | _ => "create_repository"

def replaceMethod (kind : ResourceKind) : String :=
  "replace_" ++ (getMethod kind).drop 4

def statusMethod (kind : ResourceKind) : String := replaceMethod kind ++ "_status"

def judge (w : World) (method : String) : Verdict × World :=
  let (v, faults) := verdict method w.faults
  (v, { w with faults })

/-- The status that a driver has for a snapshot once it was read often enough. -/
def driverStatus? (w : World) (s : Snapshot) (reads : Nat) : Option SnapshotStatus :=
  (w.drivers.find? fun d => s.spec.claim = some d.claim ∧ d.after ≤ reads).map (·.status)

/-- Counts a read of a snapshot, and lets its driver act. -/
def drive (w : World) (nameSpace name : String) : World :=
  let w := { w with snapshotReads := (nameSpace, name) :: w.snapshotReads }
  match w.store.find? .snapshot nameSpace name with
  | none => w
  | some s =>
    match w.driverStatus? s (w.snapshotReads.count (nameSpace, name)) with
    | none => w
    | some status => { w with store := w.store.put .snapshot { s with status := some status } }

def get (w : World) (kind : ResourceKind) (nameSpace name : String) :
    Except Failure (Option (Resource kind)) × World :=
  match w.judge (getMethod kind) with
  | (.fail failure, w) => (.error failure, w)
  | (verdict, w) =>
    let w := if kind = .snapshot then w.drive nameSpace name else w
    (.ok (if verdict = .nothing then none else w.store.find? kind nameSpace name), w)

def write {kind : ResourceKind} (w : World) (method : String)
    (change : Store → Except Failure (Resource kind) × Store) :
    Except Failure (Resource kind) × World :=
  match w.judge method with
  | (.fail failure, w) => (.error failure, w)
  | (_, w) =>
    let (result, store) := change w.store
    (result, { w with store })

def secret (w : World) (nameSpace name : String) : Except Failure (Option Secret) × World :=
  match w.judge "get_secret" with
  | (.fail failure, w) => (.error failure, w)
  | (.nothing, w) => (.ok none, w)
  | (.pass, w) => (.ok (w.store.secret? nameSpace name), w)

def note (w : World) (call : Call) : World := { w with workloads := w.workloads.note call }

def workload (w : World) (kind : WorkloadKind) (nameSpace name : String) :
    Except Failure (Option Workload) × World :=
  let w := w.note (.get (kind.name ++ " " ++ nameSpace ++ "/" ++ name))
  match w.judge "workload_get" with
  | (.fail failure, w) => (.error failure, w)
  | (.nothing, w) => (.ok none, w)
  | (.pass, w) =>
    let (found, workloads) := w.workloads.get kind nameSpace name
    (.ok found, { w with workloads })

def replaceWorkload (w : World) (object : Workload) : Except Failure Workload × World :=
  let w := w.note (.replace object.describe)
  match w.judge "workload_replace" with
  | (.fail failure, w) =>
    let workloads := if failure.isConflict then w.workloads.disturb object else w.workloads
    (.error failure, { w with workloads })
  | (_, w) =>
    let (result, workloads) := w.workloads.replace object
    (result, { w with workloads })

def pods (w : World) (nameSpace selector : String) : Except Failure (List Pod) × World :=
  match (w.note (.listPods nameSpace selector)).judge "list_pods" with
  | (.fail failure, w) => (.error failure, w)
  | (_, w) =>
    let (pods, workloads) := w.workloads.listPods
    (.ok pods, { w with workloads })

def deletePods (w : World) (nameSpace selector : String) : Except Failure Unit × World :=
  match (w.note (.deletePods nameSpace selector)).judge "delete_pods" with
  | (.fail failure, w) => (.error failure, w)
  | (_, w) => (.ok (), w)

def run (w : World) (invocation : Invocation) : Reply (Except Failure String) × World :=
  let (reaction, scripts) := Script.next invocation.command w.scripts
  let value := reaction.outcome.mapError fun message => Failure.tool invocation.command message
  ({ value, wait := if reaction.milliseconds = 0 then none else some reaction.milliseconds },
    { w with scripts, calls := w.calls ++ [invocation] })

def acquire (w : World) (who : String) : Except String Unit × World :=
  match w.gate.acquire who with
  | .ok gate => (.ok (), { w with gate })
  | .error holder => (.error holder, w)

def atOnce {β : Type} (reply : β × World) : Reply β × World := ({ value := reply.1 }, reply.2)

/-- The reply to a request. What the request changes, it changes at once. -/
def answer {β : Type} (request : Request β) (w : World) : Reply β × World :=
  match request with
  | .get kind nameSpace name => atOnce (w.get kind nameSpace name)
  | .create kind object => atOnce (w.write (createMethod kind) (·.create kind object))
  | .replace kind object => atOnce (w.write (replaceMethod kind) (·.replace kind object))
  | .replaceStatus kind object => atOnce (w.write (statusMethod kind) (·.replace kind object))
  | .secret nameSpace name => atOnce (w.secret nameSpace name)
  | .workload kind nameSpace name => atOnce (w.workload kind nameSpace name)
  | .replaceWorkload object => atOnce (w.replaceWorkload object)
  | .pods nameSpace selector => atOnce (w.pods nameSpace selector)
  | .deletePods nameSpace selector => atOnce (w.deletePods nameSpace selector)
  | .run invocation => w.run invocation
  | .file step =>
    let (result, files) := w.files.answer step
    atOnce (result, { w with files })
  | .publish event => atOnce ((), { w with events := w.events ++ [event] })
  | .push _ _ => atOnce ((), w)
  | .now => atOnce (Duration.ofMillis w.clock, w)
  | .sleep time => ({ value := (), wait := some (milliseconds time) }, w)
  | .calendar => atOnce (today, w)
  | .acquire who => atOnce (w.acquire who)
  | .release => atOnce ((), { w with gate := w.gate.release })
  | .start nameSpace name time =>
    atOnce ((), { w with started := w.started ++ [(nameSpace, name, time)] })

end World

end ClusterBackup.Simulation
