import ClusterBackup.Run.Backup
import ClusterBackup.Sidecar

/-! Getting the sidecar into the pods of a workload and out of them again. -/

set_option autoImplicit false

namespace ClusterBackup

open Cluster Program

structure Rollout where
  setting : Setting
  timeout : Duration := Duration.ofSeconds 300
  interval : Duration := Duration.ofSeconds 2

namespace Rollout

def isLive (pod : Pod) : Bool := pod.metadata.deletion.isNone && pod.phase == some "Running"

def carries (pod : Pod) : Bool := isLive pod && pod.spec.any Sidecar.isIn

def reread (w : Workload) : Action Workload := do
  Action.found (.notFound w.kind.name w.nameSpace w.name)
    (← Action.ask (.workload w.kind w.nameSpace w.name))

/-- Edits a workload and writes it back. After a conflict it is read anew, the first attempt
takes it as given. -/
def edit (r : Rollout) (name : String) (w : Workload) (change : Workload → Except Failure Workload) :
    Action Workload :=
  ExceptT.mk do
    let (result, ()) ← retryConflicts (ρ := Request) r.setting.policy name () fun attempt () => do
      let written ← ExceptT.run (m := Program Request) do
        let object ← if attempt = 1 then pure w else reread w
        Action.ask (.replaceWorkload (← Action.ofExcept (change object)))
      return (written, ())
    return result

/-- Pods of workloads that do not replace them are deleted. -/
def restartPods (w : Workload) : Action Unit :=
  if w.kind.rollsOnTemplateChange then pure ()
  else match w.selector? with
    | none => pure ()
    | some selector => do
      Action.ask (.deletePods w.nameSpace (← Action.ofExcept selector.text))

def isSettled (w : Workload) (selector : String) (wanted : Bool) : Action Bool := do
  let current ← reread w
  if ! current.isRolledOut then return false
  let pods ← Action.ask (.pods w.nameSpace selector)
  return pods.any carries == wanted

def await (r : Rollout) (w : Workload) (wanted : Bool) : Action Unit := do
  let selector ← match w.selector? with
    | none => pure ""
    | some selector => Action.ofExcept selector.text
  ExceptT.mk (pollUntil r.timeout r.interval
    (w.describe ++ " did not roll out within " ++ r.timeout.describe)
    (isSettled w selector wanted).run)

def add (r : Rollout) (w : Workload) (config : Configuration) : Action Unit := do
  let secretName := config.spec.backend.secretName
  let missing : Failure := .missingSecret w.nameSpace secretName
  if secretName = "" then throw missing
  if (← Action.ask (.secret w.nameSpace secretName)).isNone then throw missing
  let container := Sidecar.container config w.kind w.name r.setting.options
  let tag := Sidecar.imageTag config r.setting.options
  let updated ← r.edit "add sidecar" w fun object => Sidecar.add object config container tag
  restartPods updated
  r.await updated true

def remove (r : Rollout) (w : Workload) : Action Unit := do
  let updated ← r.edit "remove sidecar" w Sidecar.remove
  restartPods updated
  r.await updated false

/-- What is told of an edit, when it is done and when it failed. -/
structure Notice where
  action : String
  done : String
  doneNote : String
  failed : String
  failedNote : String

def Notice.adding (config : Configuration) : Notice :=
  { action := "InjectSidecar", done := "SidecarInjected"
    doneNote := "Added backup sidecar for BackupConfiguration " ++ config.name
    failed := "SidecarInjectionFailed", failedNote := "Failed to add backup sidecar: " }

def Notice.removing (owner : String) : Notice :=
  { action := "RemoveSidecar", done := "SidecarRemoved"
    doneNote := "Removed backup sidecar of BackupConfiguration " ++ owner
    failed := "SidecarRemovalFailed", failedNote := "Failed to remove backup sidecar: " }

def Notice.publish (notice : Notice) (object : Reference) (result : Except Failure Unit) :
    Action Unit := do
  match result with
  | .ok () => Action.normal object notice.done notice.action notice.doneNote
  | .error failure =>
    Action.warning object notice.failed notice.action (notice.failedNote ++ failure.message)
  Action.ofExcept result

def ensure (r : Rollout) (w : Workload) (config : Configuration) : Action Unit := do
  if w.annotation? Sidecar.ownerAnnotation = some config.name then return ()
  let result ← Action.attempt (r.add w config)
  (Notice.adding config).publish w.reference result

def ensureRemoved (r : Rollout) (w : Workload) : Action Unit := do
  match w.annotation? Sidecar.ownerAnnotation with
  | none => return ()
  | some owner =>
    let result ← Action.attempt (r.remove w)
    (Notice.removing owner).publish w.reference result

end Rollout

end ClusterBackup
