import ClusterBackup.Json.Shape

/-! What the hosts that take part in a session report, and the phase of the session that
follows from it. -/

set_option autoImplicit false

namespace ClusterBackup

open Json

inductive Phase where
  | pending
  | running
  | succeeded
  | failed
  | unknown
  deriving DecidableEq, Repr, Inhabited

namespace Phase

def all : List Phase := [.pending, .running, .succeeded, .failed, .unknown]

theorem mem_all (phase : Phase) : phase ∈ all := by cases phase <;> decide

def name : Phase → String
  | .pending => "Pending"
  | .running => "Running"
  | .succeeded => "Succeeded"
  | .failed => "Failed"
  | .unknown => "Unknown"

/-- Phases that are never left. -/
def isTerminal : Phase → Bool
  | .succeeded | .failed => true
  | _ => false

def shape : Shape := .choice (all.map name)

def ofJson? : Json → Option Phase := choice? (all.map fun phase => (phase.name, phase))

def toJson (phase : Phase) : Json := .string phase.name

end Phase

structure HostEntry where
  host : String
  phase : Phase
  duration : Option String := none
  error : Option String := none
  deriving DecidableEq, Repr, Inhabited

namespace HostEntry

def shape : Shape :=
  .record "HostStatus"
    ([Shape.req "hostname" .text, Shape.req "phase" Phase.shape]
      ++ Shape.texts ["duration", "error"])

def ofJson? (j : Json) : Option HostEntry := do
  let members ← record? ["hostname", "phase", "duration", "error"] j
  return {
    host := ← members.required "hostname" text?
    phase := ← members.required "phase" Phase.ofJson?
    duration := ← members.optional "duration" text?
    error := ← members.optional "error" text? }

def toJson (e : HostEntry) : Json :=
  .object ([("hostname", .string e.host), ("phase", e.phase.toJson)]
    ++ member? "duration" .string e.duration ++ member? "error" .string e.error)

end HostEntry

namespace Hosts

def find? (entries : List HostEntry) (host : String) : Option HostEntry :=
  entries.find? (·.host == host)

/-- The entries with one of them new, at the place of the first entry of that host or at the end. -/
def put (entry : HostEntry) : List HostEntry → List HostEntry
  | [] => [entry]
  | e :: rest => if e.host = entry.host then entry :: rest else e :: put entry rest

/-- A new entry for a host, unless the host has come to its end already. -/
def report? (entries : List HostEntry) (entry : HostEntry) : Option (List HostEntry) :=
  match find? entries entry.host with
  | some e => if e.phase.isTerminal then none else some (put entry entries)
  | none => some (put entry entries)

/-- The phase of a session. It ends when every host that is expected has come to its end. -/
def phase (entries : List HostEntry) (expected : Option Nat) : Phase :=
  if entries.isEmpty then .pending
  else if entries.any (·.phase == .unknown) then .unknown
  else if expected.all (· ≤ entries.length) && entries.all (·.phase.isTerminal) then
    if entries.any (·.phase == .failed) then .failed else .succeeded
  else .running

end Hosts

end ClusterBackup
