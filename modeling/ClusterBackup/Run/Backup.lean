import ClusterBackup.Host
import ClusterBackup.Status
import ClusterBackup.Tool.Listing

/-! Backups: one run of a configuration, and the share of one host in a session. -/

set_option autoImplicit false

namespace ClusterBackup

open Cluster

/-- What a process knows from its start. -/
structure Setting where
  options : Options
  policy : RetryPolicy

namespace Backup

/-- The tool for a repository object, whose backend has the path of the host already. -/
def repositoryTool (setting : Setting) (nameSpace name : String) : Action Tool := do
  let repository ← Action.found (.notFound "Repository" nameSpace name)
    (← Action.ask (.get .repository nameSpace name))
  let backend := repository.spec.backend
  let secret ← Action.found (.missingSecret nameSpace backend.secretName)
    (← Action.ask (.secret nameSpace backend.secretName))
  let environment ← (Environment.plan backend secret setting.options.scratchDirectory "").perform
  return Tool.ofOptions environment setting.options

/-- The name of the configuration follows the tags of the group. -/
def tagsOf (config : Configuration) (group : FileGroup) : List String :=
  if group.tags.contains config.name then group.tags else group.tags ++ [config.name]

/-- The name of the repository object, which is made if there is none. Another process that
makes it at the same time is no failure. -/
def ensureRepository (host : Host) (nameSpace : String) (config : Configuration) : Action String := do
  let name := host.repositoryName config.spec.autoPath
  match ← Action.ask (.get .repository nameSpace name) with
  | some _ => return name
  | none =>
    let backend := config.spec.backend.extend (host.path config.spec.autoPath)
    match ← Action.attempt (Action.ask
        (.create .repository (Repository.ofHost nameSpace name config.name backend))) with
    | .ok _ => return name
    | .error failure => if failure.isConflict then return name else throw failure

/-- The repository object, the environment, and the repository itself. -/
def prepare (setting : Setting) (host : Host) (nameSpace : String) (config : Configuration)
    (secret : Secret) : Action (Tool × String) := do
  let repository ← ensureRepository host nameSpace config
  let environment ← (Environment.plan config.spec.backend secret setting.options.scratchDirectory
    (host.path config.spec.autoPath)).perform
  let tool := Tool.ofOptions environment setting.options
  let _ ← tool.ensure
  return (tool, repository)

def elapsedSince (start : Duration) : Action Duration := do
  let now ← Action.tell .now
  return ⟨now.nanos - start.nanos⟩

/-- Backs up one group and forgets old snapshots, also when the backup failed. The result is
how many snapshots are removed; a failed backup goes before failed forgetting. -/
def runGroup (host : Host) (config : Configuration) (tool : Tool) (group : FileGroup)
    (metrics : Metrics) : Action (Metrics × Except Failure Int) := do
  let object := config.reference
  let start ← Action.tell .now
  let backup ← Action.attempt (tool.run (Tool.backup group.path host.name (tagsOf config group)))
  let metrics := metrics.observe group.path "backup" (← elapsedSince start)
  match backup with
  | .ok _ =>
    Action.normal object "SuccessfulBackup" "Backup"
      ("Backed up pod:" ++ host.name ++ " path:" ++ group.path)
  | .error failure =>
    Action.warning object "FailedToBackup" "Backup"
      ("Error taking backup of " ++ group.path ++ ": " ++ failure.message)
  let start ← Action.tell .now
  let forgotten ← Action.attempt (tool.runForget group.retention host.name group.path)
  let took ← elapsedSince start
  let metrics := if group.retention.isEmpty then metrics else metrics.observe group.path "forget" took
  match forgotten with
  | .ok _ => pure ()
  | .error failure =>
    Action.warning object "FailedToRetention" "Retention"
      ("Error forgetting snapshots of " ++ group.path ++ ": " ++ failure.message)
  return (metrics, do
    let _ ← backup
    return ((← forgotten).map removedCount).getD 0)

def runGroups (host : Host) (config : Configuration) (tool : Tool) :
    List FileGroup → Metrics → Int → Action (Metrics × Except Failure Int)
  | [], metrics, removed => pure (metrics, .ok removed)
  | group :: rest, metrics, removed => do
    match ← runGroup host config tool group metrics with
    | (metrics, .ok n) => runGroups host config tool rest metrics (removed + n)
    | (metrics, .error failure) => return (metrics, .error failure)

def pushMetrics (setting : Setting) (host : Host) (nameSpace name : String) (metrics : Metrics) :
    Action Unit :=
  if setting.options.metrics then
    Action.tell (.push (Metrics.url setting.options.pushUrl (nameSpace ++ "-" ++ name) host.name) metrics)
  else pure ()

def refuse {α : Type} (config : Configuration) (failure : Failure) : Action α := do
  Action.warning config.reference "FailedSetup" "Setup" failure.message
  throw failure

/-- The run of a configuration whose secret is at hand. -/
def runWith (setting : Setting) (host : Host) (nameSpace name : String) (time : Instant)
    (config : Configuration) (secret : Secret) : Action Unit := do
  let start ← Action.tell .now
  match ← Action.attempt (prepare setting host nameSpace config secret) with
  | .error failure =>
    Action.warning config.reference "FailedSetup" "Setup" failure.message
    let metrics := ({} : Metrics).finish false (← elapsedSince start)
    pushMetrics setting host nameSpace name metrics
    throw failure
  | .ok (tool, repository) =>
    let (metrics, result) ← runGroups host config tool config.spec.groups {} 0
    let took ← elapsedSince start
    match result with
    | .ok removed =>
      let _ ← Status.recordRun setting.policy nameSpace name time took
      let _ ← Status.recordRepositoryRun setting.policy nameSpace repository time took removed
      pushMetrics setting host nameSpace name (metrics.finish true took)
    | .error failure =>
      pushMetrics setting host nameSpace name (metrics.finish false took)
      throw failure

/-- One run. A configuration that is gone or paused has nothing to do. -/
def runOnce (setting : Setting) (host : Host) (nameSpace name : String) (time : Instant) :
    Action Unit := do
  match ← Action.ask (.get .configuration nameSpace name) with
  | none => return ()
  | some config =>
    if config.spec.paused then return ()
    match config.spec.validate with
    | .error failure => refuse config failure
    | .ok () =>
      let secretName := config.spec.backend.secretName
      match ← Action.ask (.secret nameSpace secretName) with
      | none => refuse config (.missingSecret nameSpace secretName)
      | some secret => runWith setting host nameSpace name time config secret

def finalEntry (host took : String) : Except Failure Unit → HostEntry
  | .ok () => { host, phase := .succeeded, duration := some took }
  | .error failure => { host, phase := .failed, duration := some took, error := some failure.message }

def announceShare (object : Reference) (kind : SessionKind) (host took : String) :
    Except Failure Unit → Action Unit
  | .ok () => match kind with
    | .backup => Action.normal object "HostBackupSucceeded" "Backup"
        ("Backup completed for host " ++ host ++ " in " ++ took)
    | .restore => Action.normal object "HostRestoreSucceeded" "Restore"
        ("Restore completed for host " ++ host ++ " in " ++ took)
  | .error failure => match kind with
    | .backup => Action.warning object "HostBackupFailed" "Backup"
        ("Backup failed for host " ++ host ++ ": " ++ failure.message)
    | .restore => Action.warning object "HostRestoreFailed" "Restore"
        ("Restore failed for host " ++ host ++ ": " ++ failure.message)

/-- The share of a host in a session. A host that has come to its end takes no part again. -/
def runSession (setting : Setting) (host : Host) (nameSpace name : String) : Action Unit := do
  match ← Action.ask (.get .backupSession nameSpace name) with
  | none => return ()
  | some session =>
    let phase ← Status.hostPhase nameSpace name host.name
    if phase.any Phase.isTerminal then return ()
    if ! (← Status.reportHost setting.policy .backup nameSpace name
        { host := host.name, phase := .running } none) then return ()
    let start ← Action.tell .now
    let time ← Action.tell .calendar
    let result ← Action.attempt (runOnce setting host nameSpace session.spec.configuration time)
    let took := (← elapsedSince start).text
    announceShare session.reference .backup host.name took result
    let _ ← Status.reportHost setting.policy .backup nameSpace name
      (finalEntry host.name took result) none
    Action.ofExcept result

/-- A session of a configuration that is neither deleted nor at its end. -/
def wants (session : BackupSession) (configuration : String) : Bool :=
  session.spec.configuration == configuration && session.metadata.deletion.isNone
    && ! session.status.any fun (s : SessionStatus) => s.phase.isTerminal

/-- A session that appeared or changed. Its failure is reported, and then done with. -/
def onSession (setting : Setting) (host : Host) (configuration : String) (session : BackupSession) :
    Action Unit :=
  if wants session configuration then do
    let _ ← Action.attempt (runSession setting host session.nameSpace session.name)
  else pure ()

end Backup

end ClusterBackup
