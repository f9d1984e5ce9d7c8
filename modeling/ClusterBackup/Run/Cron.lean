import ClusterBackup.CronTable
import ClusterBackup.Run.Backup
import ClusterBackup.Watch.Trigger

/-! Scheduled runs: installing a schedule, following it, and one run at a time behind the
gate. -/

set_option autoImplicit false

namespace ClusterBackup.Cron

open Cluster Program

inductive FireOutcome where
  | ran
  | skipped (holder : String)
  deriving DecidableEq, Repr

def configurationReference (nameSpace name : String) : Reference :=
  { apiVersion := some ResourceKind.configuration.apiVersion,
    kind := some ResourceKind.configuration.name, nameSpace := some nameSpace, name := some name }

/-- An invalid expression is reported, and cleared from the configuration; that is no failure. -/
def reportRefused (policy : RetryPolicy) (config : Configuration) (expression : String)
    (failure : Failure) : Action Unit := do
  Action.warning config.reference "InvalidCronExpression" "Schedule" failure.message
  let _ ← Status.clearSchedule policy config.nameSpace config.name
  Action.normal config.reference "SuccessfulCronExpressionReset" "Schedule"
    ("Cleared invalid schedule " ++ Text.quote expression)

/-- What is left to do once the table has changed. -/
def afterChange (policy : RetryPolicy) (config : Configuration) : CronTable.Change → Action Unit
  | .refused _ expression failure => reportRefused policy config expression failure
  | _ => pure ()

def onConfiguration (table : CronTable) (config : Configuration) (deleted : Bool) :
    CronTable.Change :=
  match Trigger.ofConfiguration (table.expression? config.key) (if deleted then none else some config) with
  | .schedule config => table.configure config
  | .scheduleRemoved => .emptied (table.remove config.key)
  | _ => .kept

/-- A run behind the gate. Whoever finds it taken skips the run. -/
def fire (setting : Setting) (host : Host) (nameSpace name : String) (time : Instant) :
    Action FireOutcome := do
  match ← Action.tell (.acquire (nameSpace ++ "/" ++ name)) with
  | .error holder => return .skipped holder
  | .ok () =>
    let result ← Action.attempt (Backup.runOnce setting host nameSpace name time)
    match result with
    | .ok () => pure ()
    | .error failure =>
      Action.warning (configurationReference nameSpace name) "FailedCronJob" "Backup" failure.message
    Action.tell .release
    Action.ofExcept (result.map fun () => .ran)

/-- Starts a run at every time of a schedule, each beside this program. -/
def follow (schedule : Schedule) (nameSpace name : String) : Program Request Unit := do
  let start ← ask .calendar
  repeating start fun after => do
    match schedule.nextAfter? after with
    | none => return .inr ()
    | some time =>
      let now ← ask .calendar
      ask (.sleep (now.timeTo time))
      ask (.start nameSpace name time)
      return .inl time

end ClusterBackup.Cron
