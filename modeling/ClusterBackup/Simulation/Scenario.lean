import ClusterBackup.Run.Check
import ClusterBackup.Run.Restore
import ClusterBackup.Run.Snapshots
import ClusterBackup.Simulation.Machine
import ClusterBackup.Watch.Reconcile

/-! Scenarios: what is done to a world step by step, and what each step shows. -/

set_option autoImplicit false

namespace ClusterBackup.Simulation

open Cluster

inductive WatchEvent where
  | apply
  | initApply
  | delete
  | init
  | initDone
  deriving DecidableEq, Repr

/-- One object of a world by its place. -/
structure Place where
  nameSpace : String
  name : String
  deriving DecidableEq, Repr

/-- An object that is given, or one of the world. -/
inductive Source (α : Type) where
  | given (object : α)
  | stored (place : Place)

inductive Step where
  | runOnce (host : Option Host) (place : Place) (time : Instant)
  | runSession (host : Option Host) (place : Place)
  | sessionEvent (host : Option Host) (configuration : String) (event : WatchEvent)
      (session : Source BackupSession)
  | restore (host : Option Host) (place : Place)
  | check (place : Place)
  | takeSnapshots (place : Place) (time : Instant) (patience : Snapshots.Patience)
  | configure (config : Source Configuration)
  | configurationEvent (event : WatchEvent) (config : Source Configuration)
  | resync (place : Place)
  | expression (key : String)
  | unschedule (key : String)
  | shutdown
  | fire (place : Place) (time : Instant)
  | fireAll (fires : List (Place × Instant))
  | advance (time : Duration)
  | reconcile (kind : WorkloadKind) (place : Place)
  | ensureSidecar (kind : WorkloadKind) (place : Place) (config : Source Configuration)
      (patience : Option Snapshots.Patience)
  | ensureRemoved (kind : WorkloadKind) (place : Place) (patience : Option Snapshots.Patience)
  | recordRun (place : Place) (time : Instant) (took : Duration)
  | recordRepositoryRun (place : Place) (time : Instant) (took : Duration) (removed : Int)
  | recordCheck (place : Place) (integrity : Bool) (count : Option Int) (size : Option String)
  | clearSchedule (place : Place)
  | reportHost (kind : SessionKind) (place : Place) (entry : HostEntry) (total : Option Int)
  | hostPhase (place : Place) (host : String)
  | put (object : Stored)
  | putSecret (secret : Secret)
  | putWorkload (workload : Workload)
  | delete (kind : ResourceKind) (place : Place)
  | deleteSecret (place : Place)
  | deleteWorkload (kind : WorkloadKind) (place : Place)
  | script (scripts : List Script)
  | fault (fault : Fault)

inductive Answer where
  | done
  | handled
  | failed (failure : Failure)
  | text (text : Option String)
  | flag (b : Bool)
  | fired (outcome : Cron.FireOutcome)
  | several (answers : List Answer)
  | reconciled (next : Watch.Next) (failures : Nat) (failure : Option Failure)
  | configurationStatus (status : Option ConfigurationStatus)
  | repositoryStatus (status : Option RepositoryStatus)
  | phase (phase : Option Phase)

namespace Answer

def ofResult {α : Type} (encode : α → Answer) : Except Failure α → Answer
  | .ok a => encode a
  | .error failure => .failed failure

end Answer

/-- What a step shows. -/
structure Shown where
  answer : Answer
  clock : Nat
  events : List Event
  calls : List Invocation
  cluster : List Call
  changed : List (String × Option Json)

namespace Scenario

def act {α : Type} (m : Machine) (encode : α → Answer) (action : Action α) :
    Option (Answer × Machine) :=
  m.alone do return Answer.ofResult encode (← action.run)

def find? {kind : ResourceKind} (w : World) : Source (Resource kind) → Option (Resource kind)
  | .given object => some object
  | .stored place => w.store.find? kind place.nameSpace place.name

def withWorld (m : Machine) (change : World → World) : Machine := { m with world := change m.world }

/-- Puts a change of the table into effect, and then does what is left to do. -/
def applyChange (m : Machine) (config : Configuration) (change : CronTable.Change) :
    Option (Answer × Machine) :=
  let m := withWorld m fun w => { w with table := change.table w.table }
  let m := match change with
    | .installed _ entry => m.follow entry
    | _ => m
  act m (fun _ => .done) (Cron.afterChange m.world.setting.policy config change)

def rolloutOf (w : World) (patience : Option Snapshots.Patience) : Rollout :=
  match patience with
  | none => { setting := w.setting }
  | some p => { setting := w.setting, timeout := p.timeout, interval := p.interval }

def workload? (w : World) (kind : WorkloadKind) (place : Place) : Option Workload :=
  w.workloads.find? kind place.nameSpace place.name

def fireAnswer (m : Machine) (place : Place) (time : Instant) : Program Request Answer := do
  let w := m.world
  return Answer.ofResult .fired (← (Cron.fire w.setting w.host place.nameSpace place.name time).run)

def reconcile (m : Machine) (w : Workload) : Option (Answer × Machine) :=
  let configs := m.world.store.all .configuration
  match m.alone (Watch.reconcile { setting := m.world.setting } w configs).run with
  | none => none
  | some (result, m) =>
    let (requeues, next) := Watch.settle m.world.requeues w result
    let failure := match result with
      | .ok _ => none
      | .error failure => some failure
    some (.reconciled next (requeues.count w.describe) failure,
      withWorld m fun world => { world with requeues })

/-- The configuration as it is stored, applied to the table. -/
def resync (m : Machine) (place : Place) : Option (Answer × Machine) :=
  match m.alone (Action.ask (.get .configuration place.nameSpace place.name)).run with
  | none => none
  | some (.error failure, m) => some (.failed failure, m)
  | some (.ok none, m) =>
    some (.done, withWorld m fun w =>
      { w with table := w.table.remove (place.nameSpace ++ "/" ++ place.name) })
  | some (.ok (some config), m) =>
    applyChange m config (Cron.onConfiguration m.world.table config false)

def actsOn : WatchEvent → Option Bool
  | .apply | .initApply => some false
  | .delete => some true
  | .init | .initDone => none

def perform (m : Machine) (step : Step) : Option (Answer × Machine) :=
  let w := m.world
  let setting := w.setting
  match step with
  | .runOnce host p time =>
    act m (fun _ => .done) (Backup.runOnce setting (host.getD w.host) p.nameSpace p.name time)
  | .runSession host p =>
    act m (fun _ => .done) (Backup.runSession setting (host.getD w.host) p.nameSpace p.name)
  | .sessionEvent host configuration event source =>
    match actsOn event with
    | some false =>
      match find? w source with
      | none => none
      | some session =>
        act m (fun _ => .handled) (Backup.onSession setting (host.getD w.host) configuration session)
    | _ => some (.handled, m)
  | .restore host p =>
    act m (fun _ => .done) (Restore.run setting (host.getD w.host) p.nameSpace p.name)
  | .check p => act m (fun _ => .done) (Check.run setting p.nameSpace p.name)
  | .takeSnapshots p time patience =>
    act m (fun _ => .done) (Snapshots.take setting patience p.nameSpace p.name time)
  | .configure source =>
    match find? w source with
    | none => none
    | some config => applyChange m config (w.table.configure config)
  | .configurationEvent event source =>
    match actsOn event with
    | none => some (.done, m)
    | some deleted =>
      match find? w source with
      | none => none
      | some config => applyChange m config (Cron.onConfiguration w.table config deleted)
  | .resync p => resync m p
  | .expression key => some (.text (w.table.expression? key), m)
  | .unschedule key =>
    some (.flag (w.table.entry? key).isSome,
      withWorld m fun w => { w with table := w.table.remove key })
  | .shutdown => some (.done, withWorld m fun w => { w with table := w.table.clear })
  | .fire p time => m.alone (fireAnswer m p time)
  | .fireAll fires =>
    match m.together (fires.map fun (p, time) => fireAnswer m p time) with
    | none => none
    | some (answers, m) => some (.several answers, m)
  | .advance time => act m (fun _ => .done) (Action.tell (.sleep time))
  | .reconcile kind p =>
    match workload? w kind p with
    | none => none
    | some workload => reconcile m workload
  | .ensureSidecar kind p source patience =>
    match workload? w kind p, find? w source with
    | some workload, some config =>
      act m (fun _ => .done) ((rolloutOf w patience).ensure workload config)
    | _, _ => none
  | .ensureRemoved kind p patience =>
    match workload? w kind p with
    | none => none
    | some workload => act m (fun _ => .done) ((rolloutOf w patience).ensureRemoved workload)
  | .recordRun p time took =>
    act m (fun config => .configurationStatus (config.bind (·.status)))
      (Status.recordRun setting.policy p.nameSpace p.name time took)
  | .recordRepositoryRun p time took removed =>
    act m (fun repository => .repositoryStatus (repository.bind (·.status)))
      (Status.recordRepositoryRun setting.policy p.nameSpace p.name time took removed)
  | .recordCheck p integrity count size =>
    act m (fun repository => .repositoryStatus (repository.bind (·.status)))
      (Status.recordCheck setting.policy p.nameSpace p.name integrity count size)
  | .clearSchedule p =>
    act m (fun config => .text (config.map (·.spec.schedule)))
      (Status.clearSchedule setting.policy p.nameSpace p.name)
  | .reportHost kind p entry total =>
    act m .flag (Status.reportHost setting.policy kind p.nameSpace p.name entry total)
  | .hostPhase p host => act m .phase (Status.hostPhase p.nameSpace p.name host)
  | .put ⟨kind, object⟩ =>
    some (.done, withWorld m fun w =>
      { w with store := if kind = .snapshot then w.store.put kind object
          else (w.store.accept kind object).2 })
  | .putSecret secret => some (.done, withWorld m fun w => { w with store := w.store.putSecret secret })
  | .putWorkload workload =>
    some (.done, withWorld m fun w => { w with workloads := w.workloads.put workload })
  | .delete kind p =>
    some (.flag (w.store.find? kind p.nameSpace p.name).isSome,
      withWorld m fun w => { w with store := w.store.delete kind p.nameSpace p.name })
  | .deleteSecret p =>
    some (.flag (w.store.secret? p.nameSpace p.name).isSome,
      withWorld m fun w => { w with store := w.store.deleteSecret p.nameSpace p.name })
  | .deleteWorkload kind p =>
    some (.flag (workload? w kind p).isSome,
      withWorld m fun w => { w with workloads := w.workloads.delete kind p.nameSpace p.name })
  | .script scripts =>
    let others := w.scripts.filter fun s => ! scripts.any (·.command == s.command)
    some (.done, withWorld m fun w => { w with scripts := others ++ scripts })
  | .fault fault => some (.done, withWorld m fun w => { w with faults := w.faults ++ [fault] })

def label : ResourceKind → String
  | .configuration => "config"
  | .repository => "repository"
  | .backupSession => "backup_session"
  | .restoreSession => "restore_session"
  | .snapshot => "snapshot"

def objects (w : World) : List (String × Json) :=
  w.store.objects.map (fun s => (label s.kind ++ " " ++ s.object.key, s.object.toJson))
    ++ w.workloads.objects.map fun o => (o.describe, o.toJson)

def changes (before after : List (String × Json)) : List (String × Option Json) :=
  let gone := before.filter fun entry => ! after.any (·.1 == entry.1)
  let new := after.filter fun entry =>
    match before.find? (·.1 == entry.1) with
    | none => true
    | some (_, old) => old != entry.2
  new.map (fun entry => (entry.1, some entry.2)) ++ gone.map fun entry => (entry.1, none)

/-- A step, and what it shows. The logs start anew with each step. -/
def show' (m : Machine) (step : Step) : Option (Shown × Machine) :=
  let m := withWorld m fun w =>
    { w with events := [], calls := [], workloads := { w.workloads with log := [] } }
  match perform m step with
  | none => none
  | some (answer, after) =>
    some ({ answer, clock := after.world.clock, events := after.world.events,
            calls := after.world.calls, cluster := after.world.workloads.log,
            changed := changes (objects m.world) (objects after.world) }, after)

def play : Machine → List Step → Option (List Shown)
  | _, [] => some []
  | m, step :: rest =>
    match show' m step with
    | none => none
    | some (shown, m) => (play m rest).map (shown :: ·)

end Scenario

end ClusterBackup.Simulation
