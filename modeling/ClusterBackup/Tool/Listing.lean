import ClusterBackup.Json.Reader
import ClusterBackup.Request
import ClusterBackup.Resource.Configuration

/-! Running the backup tool against one repository. -/

set_option autoImplicit false

namespace ClusterBackup

open Json

namespace StoredSnapshot

def shape : Shape :=
  .record "Snapshot"
    [ Shape.req "id" .text, Shape.req "time" .instant, Shape.dft "paths" (.many .text),
      Shape.dft "hostname" .text, Shape.dft "tags" (.many .text) ]

def ofJson? (j : Json) : Option StoredSnapshot := do
  let members ← record? ["id", "time", "paths", "hostname", "tags"] j
  return {
    id := ← members.required "id" text?
    time := ← members.required "time" Instant.ofJson?
    paths := ← members.defaulted "paths" [] (list? text?)
    host := ← members.defaulted "hostname" "" text?
    tags := ← members.defaulted "tags" [] (list? text?) }

def toJson (s : StoredSnapshot) : Json :=
  .object [("id", .string s.id), ("time", Instant.toJson s.time), ("paths", strings s.paths),
    ("hostname", .string s.host), ("tags", strings s.tags)]

def listOf (output : String) : Except Failure (List StoredSnapshot) :=
  match Json.read (.many shape) (Text.trim output) with
  | .error message => .error (.serialization message)
  | .ok j =>
    match list? ofJson? j with
    | some snapshots => .ok snapshots
    | none => .error (.serialization "the list of snapshots is out of bounds")

end StoredSnapshot

namespace Tool

def run (t : Tool) (arguments : List String) : Action String :=
  Action.ask (.run (t.invocation arguments))

/-- Makes the repository unless it answers already, and tells whether it was made. -/
def ensure (t : Tool) : Action Bool := do
  match ← Action.attempt (t.run probe) with
  | .ok _ => return false
  | .error _ =>
    let _ ← t.run create
    return true

def runForget (t : Tool) (policy : Retention) (host path : String) : Action (Option String) :=
  match forget? policy host path with
  | none => pure none
  | some arguments => do return some (← t.run arguments)

def snapshots (t : Tool) (ids : List String) : Action (List StoredSnapshot) := do
  Action.ofExcept (StoredSnapshot.listOf (← t.run (listSnapshots ids)))

end Tool

namespace SetupPlan

/-- The steps in order, up to the first that fails, and then the environment. -/
def perform (plan : SetupPlan) : Action Environment := do
  plan.steps.forM fun step => Action.ask (.file step)
  Action.ofExcept plan.outcome

end SetupPlan

end ClusterBackup
