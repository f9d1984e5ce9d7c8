import ClusterBackup.Request
import ClusterBackup.Resource.Hosts

/-! Statuses: how each report changes an object, and the writing of it against other
writers. -/

set_option autoImplicit false

namespace ClusterBackup

open Program

namespace Configuration

/-- One run more, with its time as the first one if there was none. The count
has no greatest value here; what becomes of the greatest one of 64 bits is left out. -/
def recordRun (started : Instant) (took : Duration) (config : Configuration) : Configuration :=
  let s : ConfigurationStatus := config.status.getD {}
  let status : ConfigurationStatus :=
    { first := some (s.first.getD started), last := some started, lastSuccess := some started,
      lastDuration := some took.text, count := s.count + 1 }
  { config with status := some status }

/-- Without a schedule, and whether there was one. -/
def clearSchedule (config : Configuration) : Configuration × Bool :=
  if config.spec.schedule = "" then (config, false)
  else ({ config with spec := { config.spec with schedule := "" } }, true)

end Configuration

namespace Repository

def recordRun (started : Instant) (took : Duration) (removed : Int) (repository : Repository) :
    Repository :=
  let s : RepositoryStatus := repository.status.getD {}
  let status : RepositoryStatus :=
    { s with
      first := some (s.first.getD started), last := some started, lastDuration := some took.text,
      removed := some removed, count := s.count + 1 }
  { repository with status := some status }

/-- What is not known stays as it was. -/
def recordCheck (integrity : Bool) (snapshots : Option Int) (size : Option String)
    (repository : Repository) : Repository :=
  let s : RepositoryStatus := repository.status.getD {}
  let status : RepositoryStatus :=
    { s with
      integrity := some integrity, snapshots := snapshots <|> s.snapshots, size := size <|> s.size }
  { repository with status := some status }

end Repository

namespace SessionStatus

/-- Hosts that are waited for; a negative number is none known. -/
def expected (s : SessionStatus) : Option Nat :=
  s.totalHosts.bind fun n => if n < 0 then none else some n.toNat

/-- The report of one host, and whether it is accepted. -/
def report (entry : HostEntry) (total : Option Int) (s : SessionStatus) : SessionStatus × Bool :=
  let s := { s with totalHosts := total <|> s.totalHosts }
  match Hosts.report? s.hosts entry with
  | none => ({ s with phase := Hosts.phase s.hosts s.expected }, false)
  | some hosts => ({ s with hosts, phase := Hosts.phase hosts s.expected }, true)

end SessionStatus

/-- Sessions of both kinds have the same status. -/
inductive SessionKind where
  | backup
  | restore
  deriving DecidableEq, Repr

namespace SessionKind

def resource : SessionKind → ResourceKind
  | .backup => .backupSession
  | .restore => .restoreSession

def operation : SessionKind → String
  | .backup => "update backup session status"
  | .restore => "update restore session status"

def status? : (kind : SessionKind) → Resource kind.resource → Option SessionStatus
  | .backup, session => session.status
  | .restore, session => session.status

def withStatus : (kind : SessionKind) → Resource kind.resource → SessionStatus → Resource kind.resource
  | .backup, session, status => { session with status := some status }
  | .restore, session, status => { session with status := some status }

def report (kind : SessionKind) (entry : HostEntry) (total : Option Int)
    (session : Resource kind.resource) : Resource kind.resource × Bool :=
  let (status, accepted) := ((kind.status? session).getD {}).report entry total
  (kind.withStatus session status, accepted)

end SessionKind

namespace Status

/-- Changes the status of one object. The flag tells whether the last change that was tried
had something to write. -/
def change (policy : RetryPolicy) (name : String) (kind : ResourceKind) (nameSpace object : String)
    (change : Resource kind → Resource kind × Bool) :
    Program Request (Except Failure (Option (Resource kind)) × Bool) :=
  readChangeWrite policy name (Program.ask (.get kind nameSpace object))
    (fun changed => Program.ask (.replaceStatus kind changed)) change

def changed {α : Type} (p : Program Request (Except Failure α × Bool)) : Action α :=
  ExceptT.mk do return (← p).1

def recordRun (policy : RetryPolicy) (nameSpace name : String) (started : Instant)
    (took : Duration) : Action (Option Configuration) :=
  changed <| change policy "update backup configuration status" .configuration nameSpace name
    fun config => (Configuration.recordRun started took config, true)

def clearSchedule (policy : RetryPolicy) (nameSpace name : String) : Action (Option Configuration) :=
  changed <| readChangeWrite policy "reset schedule" (Program.ask (.get .configuration nameSpace name))
    (fun config => Program.ask (.replace .configuration config)) Configuration.clearSchedule

def recordRepositoryRun (policy : RetryPolicy) (nameSpace name : String) (started : Instant)
    (took : Duration) (removed : Int) : Action (Option Repository) :=
  changed <| change policy "update repository status" .repository nameSpace name
    fun repository => (Repository.recordRun started took removed repository, true)

def recordCheck (policy : RetryPolicy) (nameSpace name : String) (integrity : Bool)
    (snapshots : Option Int) (size : Option String) : Action (Option Repository) :=
  changed <| change policy "update repository status" .repository nameSpace name
    fun repository => (Repository.recordCheck integrity snapshots size repository, true)

/-- Reports for one host of a session. The answer is whether the last report that was tried
was accepted by the session; if the session is gone by then, an earlier try decides. -/
def reportHost (policy : RetryPolicy) (kind : SessionKind) (nameSpace name : String)
    (entry : HostEntry) (total : Option Int) : Action Bool :=
  ExceptT.mk do
    let (result, accepted) ← change policy kind.operation kind.resource nameSpace name
      (kind.report entry total)
    return result.map fun _ => accepted

def hostPhase (nameSpace name host : String) : Action (Option Phase) := do
  let session ← Action.ask (.get .backupSession nameSpace name)
  let status := session.bind (·.status)
  return (status.bind fun s => Hosts.find? s.hosts host).map (·.phase)

end Status

end ClusterBackup
