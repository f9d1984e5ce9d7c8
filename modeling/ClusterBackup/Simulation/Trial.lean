import ClusterBackup.Gate
import ClusterBackup.Retry
import ClusterBackup.Simulation.World

/-! Trials: what retrying does when every outcome is prescribed. -/

set_option autoImplicit false

namespace ClusterBackup.Simulation

inductive Trial : Type → Type where
  | attempt (number : Nat) : Trial (Except Failure String)
  | check : Trial (Except Failure Bool)
  | read : Trial (Except Failure (Option Int))
  | write (object : Int) : Trial (Except Failure Int)
  | now : Trial Duration
  | sleep (time : Duration) : Trial Unit

instance : Timed Trial where
  now := .now
  sleep := .sleep

inductive Entry where
  | attempt (number clock : Nat)
  | check (clock : Nat)
  | read
  | write (object : Int)
  deriving DecidableEq, Repr

/-- Outcomes that are prescribed for each call in turn. -/
structure Prescription where
  attempts : List (Except Failure String) := []
  checks : List (Except Failure Bool) := []
  reads : List (Except Failure (Option Int)) := []
  writes : List (Option Failure) := []

structure Record where
  clock : Nat := 0
  attempts : Nat := 0
  checks : Nat := 0
  reads : Nat := 0
  writes : Nat := 0
  log : List Entry := []

namespace Trial

def lasting {α : Type} (entries : List α) (call : Nat) : Option α := entries[call]? <|> entries.getLast?

def answer (p : Prescription) {β : Type} (trial : Trial β) (r : Record) : β × Record :=
  match trial with
  | .attempt number =>
    let call := r.attempts + 1
    ((p.attempts[r.attempts]?).getD (.ok ("end " ++ Number.textOf call)),
      { r with attempts := call, log := r.log ++ [.attempt number r.clock] })
  | .check =>
    ((lasting p.checks r.checks).getD (.ok false),
      { r with checks := r.checks + 1, log := r.log ++ [.check r.clock] })
  | .read =>
    ((lasting p.reads r.reads).getD (.ok none), { r with reads := r.reads + 1, log := r.log ++ [.read] })
  | .write object =>
    (match (p.writes[r.writes]?).bind id with
      | some failure => .error failure
      | none => .ok (object * 10),
      { r with writes := r.writes + 1, log := r.log ++ [.write object] })
  | .now => (Duration.ofMillis r.clock, r)
  | .sleep time => ((), { r with clock := r.clock + milliseconds time })

def enough : Nat := 1000000

def run {α : Type} (p : Prescription) (program : Program Trial α) : Option (α × Record) :=
  program.run (answer p) enough {}

/-- Tries until an attempt succeeds or the attempts are used up. -/
def always (policy : RetryPolicy) : Program Trial (Except Failure String) :=
  retryAlways policy (Program.ask (.attempt 0))

def onConflicts (policy : RetryPolicy) (name : String) : Program Trial (Except Failure String) := do
  return (← retryConflicts policy name () fun number () => do
    return (← Program.ask (.attempt number), ())).1

def polling (timeout interval : Duration) (message : String) : Program Trial (Except Failure Unit) :=
  pollUntil timeout interval message (Program.ask .check)

/-- Adds one to a number, unless the number is above a bound. -/
def changing (policy : RetryPolicy) (name : String) (bound : Option Int) :
    Program Trial (Except Failure (Option Int)) := do
  return (← readChangeWrite policy name (Program.ask .read) (fun n => Program.ask (.write n)) fun n =>
    if bound.any (· < n) then (n, false) else (n + 1, true)).1

end Trial

/-- Gates, and who holds a permit of which of them in which slot. -/
structure Gates where
  gates : List Gate := []
  slots : List (String × Nat) := []

namespace Gates

def holder (g : Gates) (gate : Nat) : Option String := (g.gates[gate]?).bind (·.holder)

def free (g : Gates) (slot : String) : Gates :=
  match g.slots.find? (·.1 == slot) with
  | none => g
  | some (_, gate) =>
    { gates := g.gates.modify gate Gate.release, slots := g.slots.filter (·.1 != slot) }

/-- A permit goes into its slot, and an older one in the slot is given up. -/
def acquire (g : Gates) (gate : Nat) (slot who : String) : Except Failure Gates :=
  match ((g.gates[gate]?).getD {}).acquire who with
  | .error holder => .error (.busy holder)
  | .ok taken =>
    let freed := g.free slot
    .ok { gates := freed.gates.set gate taken, slots := freed.slots ++ [(slot, gate)] }

def release (g : Gates) (slot : String) : Bool × Gates :=
  (g.slots.any (·.1 == slot), g.free slot)

end Gates

end ClusterBackup.Simulation
