import ClusterBackup.Cluster.Secret
import ClusterBackup.Cluster.Workload
import ClusterBackup.Metrics
import ClusterBackup.Resource.Resource
import ClusterBackup.Retry
import ClusterBackup.Tool.Invocation

/-! Everything that the program asks of the world around it. -/

set_option autoImplicit false

namespace ClusterBackup

open Cluster

structure Event where
  object : Reference
  warning : Bool
  reason : String
  action : String
  note : Option String := none
  deriving DecidableEq, Repr

inductive Request : Type → Type where
  | get (kind : ResourceKind) (nameSpace name : String) : Request (Except Failure (Option (Resource kind)))
  | create (kind : ResourceKind) (object : Resource kind) : Request (Except Failure (Resource kind))
  | replace (kind : ResourceKind) (object : Resource kind) : Request (Except Failure (Resource kind))
  | replaceStatus (kind : ResourceKind) (object : Resource kind) : Request (Except Failure (Resource kind))
  | secret (nameSpace name : String) : Request (Except Failure (Option Secret))
  | workload (kind : WorkloadKind) (nameSpace name : String) : Request (Except Failure (Option Workload))
  | replaceWorkload (object : Workload) : Request (Except Failure Workload)
  | pods (nameSpace selector : String) : Request (Except Failure (List Pod))
  | deletePods (nameSpace selector : String) : Request (Except Failure Unit)
  | run (invocation : Invocation) : Request (Except Failure String)
  | file (step : FileStep) : Request (Except Failure Unit)
  | publish (event : Event) : Request Unit
  | push (url : String) (metrics : Metrics) : Request Unit
  | now : Request Duration
  | sleep (time : Duration) : Request Unit
  | calendar : Request Instant
  | acquire (who : String) : Request (Except String Unit)
  | release : Request Unit
  /-- Starts a run beside this program. -/
  | start (nameSpace name : String) (time : Instant) : Request Unit

instance : Timed Request where
  now := .now
  sleep := .sleep

/-- A program that may fail. -/
abbrev Action := ExceptT Failure (Program Request)

namespace Action

def ask {α : Type} (r : Request (Except Failure α)) : Action α := ExceptT.mk (Program.ask r)

def tell {α : Type} (r : Request α) : Action α := ExceptT.lift (Program.ask r)

def attempt {α : Type} (a : Action α) : Action (Except Failure α) := ExceptT.lift a.run

def ofExcept {α : Type} (result : Except Failure α) : Action α := ExceptT.mk (.done result)

def found {α : Type} (failure : Failure) : Option α → Action α
  | some a => pure a
  | none => throw failure

def normal (object : Reference) (reason action note : String) : Action Unit :=
  tell (.publish { object, warning := false, reason, action, note := some note })

def warning (object : Reference) (reason action note : String) : Action Unit :=
  tell (.publish { object, warning := true, reason, action, note := some note })

end Action

end ClusterBackup
