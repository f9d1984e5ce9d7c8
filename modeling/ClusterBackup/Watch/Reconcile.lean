import ClusterBackup.Run.Rollout
import ClusterBackup.Watch.Requeue
import ClusterBackup.Watch.Trigger

/-! Reconciling a workload with the configurations of its namespace, and when to look at it
again. -/

set_option autoImplicit false

namespace ClusterBackup.Watch

open Cluster

inductive Next where
  | awaitChange
  | after (delay : Duration)
  deriving DecidableEq, Repr

/-- Acts on what a workload asks for. One that is being deleted asks for nothing. -/
def reconcile (rollout : Rollout) (w : Workload) (configs : List Configuration) : Action Next := do
  if w.metadata.deletion.isSome then return .awaitChange
  match Trigger.ofWorkload w (configs.filter (Configuration.isIn w.nameSpace)) with
  | .add config => rollout.ensure w config
  | .remove _ => rollout.ensureRemoved w
  | _ => pure ()
  return .after rollout.setting.options.resync

/-- The failures of a workload after a reconciliation, and when to look at it again. -/
def settle (requeues : Requeues) (w : Workload) : Except Failure Next → Requeues × Next
  | .ok next => (requeues.forget w.describe, next)
  | .error _ => match requeues.fail w.describe with
    | (requeues, some delay) => (requeues, .after delay)
    | (requeues, none) => (requeues, .awaitChange)

/-- One watcher for every kind that is served, and one for the configurations. -/
def watcherCount (served : List WorkloadKind) : Nat :=
  (WorkloadKind.all.filter (served.contains ·)).length + 1

end ClusterBackup.Watch
