import ClusterBackup.Cluster.Workload

/-! Workloads and their pods in memory. -/

set_option autoImplicit false

namespace ClusterBackup.Simulation

open Cluster

inductive Call where
  | get (what : String)
  | replace (what : String)
  | listPods (nameSpace selector : String)
  | deletePods (nameSpace selector : String)
  deriving DecidableEq, Repr

/-- When a workload's status says that it has rolled out. -/
inductive RolloutRule where
  | onReplace
  | never
  | afterGets (count : Nat)
  deriving DecidableEq, Repr

/-- Which pods there are: one with the template of the workload that was read last, or a list
for each call, the last one for all further calls. -/
inductive PodRule where
  | ofWorkload
  | lists (calls : List (List Pod))

structure Workloads where
  objects : List Workload := []
  rollout : RolloutRule := .onReplace
  pods : PodRule := .ofWorkload
  log : List Call := []
  gets : Nat := 0
  listings : Nat := 0
  lastRead : Option Workload := none

namespace Workloads

def isAt (kind : WorkloadKind) (nameSpace name : String) (w : Workload) : Bool :=
  w.kind == kind && w.nameSpace == nameSpace && w.name == name

def find? (ws : Workloads) (kind : WorkloadKind) (nameSpace name : String) : Option Workload :=
  ws.objects.find? (isAt kind nameSpace name)

def put (ws : Workloads) (w : Workload) : Workloads :=
  if ws.objects.any (isAt w.kind w.nameSpace w.name) then
    { ws with objects := ws.objects.map fun old =>
        if isAt w.kind w.nameSpace w.name old then w else old }
  else { ws with objects := ws.objects ++ [w] }

def delete (ws : Workloads) (kind : WorkloadKind) (nameSpace name : String) : Workloads :=
  { ws with objects := ws.objects.filter (! isAt kind nameSpace name ·) }

/-- The workload with a status that says that it has rolled out. -/
def rolledOut (w : Workload) : Workload :=
  let observed := w.metadata.generation
  let desired := some w.replicas
  let status : WorkloadStatus := match w.kind with
    | .daemonSet =>
      { observedGeneration := observed, current := some 1, desired := some 1, updated := some 1,
        ready := some 1, misplaced := some 0 }
    | .replicaSet | .replicationController =>
      { observedGeneration := observed, replicas := desired, ready := desired }
    | _ => { observedGeneration := observed, replicas := desired, ready := desired, updated := desired }
  { w with status := some status }

def note (ws : Workloads) (call : Call) : Workloads := { ws with log := ws.log ++ [call] }

def get (ws : Workloads) (kind : WorkloadKind) (nameSpace name : String) : Option Workload × Workloads :=
  let ws := { ws with gets := ws.gets + 1 }
  match ws.find? kind nameSpace name with
  | none => (none, { ws with lastRead := none })
  | some w =>
    let w := match ws.rollout with
      | .afterGets count => if count ≤ ws.gets then rolledOut w else w
      | _ => w
    (some w, { ws.put w with lastRead := some w })

def nextVersion (w : Workload) : String :=
  Number.textOf ((w.metadata.resourceVersion.bind fun s => Number.natBelow? Number.limit64 s).getD 0 + 1)

/-- A workload without a generation is of the first one. -/
def nextGeneration (w : Workload) : Int := w.metadata.generation.getD 1 + 1

/-- The stored object after a conflict that was asked for: someone else wrote it. -/
def disturb (ws : Workloads) (w : Workload) : Workloads :=
  match ws.find? w.kind w.nameSpace w.name with
  | none => ws
  | some old =>
    ws.put { old with metadata := { old.metadata with resourceVersion := some (nextVersion old) } }

def replace (ws : Workloads) (w : Workload) : Except Failure Workload × Workloads :=
  match ws.find? w.kind w.nameSpace w.name with
  | none => (.error (.notFound w.kind.name w.nameSpace w.name), ws)
  | some old =>
    if old.metadata.resourceVersion = w.metadata.resourceVersion then
      let w := { w with metadata := { w.metadata with
        resourceVersion := some (nextVersion old)
        generation := some (nextGeneration old) } }
      let w := if ws.rollout = .onReplace then rolledOut w else w
      (.ok w, ws.put w)
    else (.error (.conflict "object has been modified"), ws)

def listPods (ws : Workloads) : List Pod × Workloads :=
  let ws := { ws with listings := ws.listings + 1 }
  match ws.pods with
  | .ofWorkload =>
    let pods := ws.lastRead.map fun w =>
      { metadata := {}, spec := w.podSpec?, status := some { phase := some "Running" } : Pod }
    (pods.toList, ws)
  | .lists calls => ((calls[ws.listings - 1]? <|> calls.getLast?).getD [], ws)

end Workloads

end ClusterBackup.Simulation
