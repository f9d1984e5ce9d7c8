import ClusterBackup.Run.Backup

/-! Restores: the share of one host in a restore session. -/

set_option autoImplicit false

namespace ClusterBackup

namespace Restore

/-- Snapshots are restored with the first of their paths, paths from their latest snapshot. -/
def applyRule (host : Host) (tool : Tool) (rule : RestoreRule) : Action Unit := do
  let source := rule.source.getD host.name
  if rule.snapshots.isEmpty then
    rule.paths.forM fun path => do
      let _ ← tool.run (Tool.restore path source none)
  else
    (← tool.snapshots rule.snapshots).forM fun snapshot => do
      match snapshot.paths with
      | [] => throw (.validation ("snapshot " ++ snapshot.id ++ " records no path"))
      | path :: _ =>
        let _ ← tool.run (Tool.restore path source (some snapshot.id))

/-- The outcome of the share, or nothing if the host takes no part. -/
def share (setting : Setting) (host : Host) (nameSpace name : String) (session : RestoreSession) :
    Action (Option (Except Failure Unit)) := do
  match session.spec.validate with
  | .error failure => return some (.error failure)
  | .ok () =>
    match session.spec.ruleFor? host.name with
    | none => return none
    | some rule =>
      if ! (← Status.reportHost setting.policy .restore nameSpace name
          { host := host.name, phase := .running } none) then return none
      return some (← Action.attempt do
        applyRule host (← Backup.repositoryTool setting nameSpace session.spec.repository) rule)

def run (setting : Setting) (host : Host) (nameSpace name : String) : Action Unit := do
  let session ← Action.found (.notFound "RestoreSession" nameSpace name)
    (← Action.ask (.get .restoreSession nameSpace name))
  let start ← Action.tell .now
  match ← share setting host nameSpace name session with
  | none => return ()
  | some result =>
    let took := (← Backup.elapsedSince start).text
    Backup.announceShare session.reference .restore host.name took result
    let _ ← Status.reportHost setting.policy .restore nameSpace name
      (Backup.finalEntry host.name took result) none
    Action.ofExcept result

end Restore

end ClusterBackup
