import ClusterBackup.Run.Backup

/-! Checks of a repository's integrity. -/

set_option autoImplicit false

namespace ClusterBackup.Check

/-- The count and the size of the snapshots are recorded if they can be had; a failed check
is recorded first and then is the failure. -/
def run (setting : Setting) (nameSpace name : String) : Action Unit := do
  let tool ← Backup.repositoryTool setting nameSpace name
  let integrity ← Action.attempt (tool.run Tool.check)
  let count := match ← Action.attempt (tool.snapshots []) with
    | .ok snapshots => some (snapshots.length : Int)
    | .error _ => none
  let size := match ← Action.attempt (tool.run Tool.stats) with
    | .ok output => totalSize? output
    | .error _ => none
  let repository ← Action.found (.notFound "Repository" nameSpace name)
    (← Status.recordCheck setting.policy nameSpace name integrity.isOk count size)
  match integrity with
  | .ok _ =>
    Action.normal repository.reference "RepositoryCheckSucceeded" "Check" "restic check passed"
  | .error failure =>
    Action.warning repository.reference "RepositoryCheckFailed" "Check" failure.message
    throw failure

end ClusterBackup.Check
