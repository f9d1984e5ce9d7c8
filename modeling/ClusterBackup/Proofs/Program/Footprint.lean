import ClusterBackup.Proofs.Program.Ending
import ClusterBackup.Proofs.Program.Within

/-! What actions reach in the world, and what can be seen of them there.

The footprint of an action bounds the requests that it makes whatever the replies are. What an
action does not reach stays out of its exchanges. -/

set_option autoImplicit false

namespace ClusterBackup

open Program

/-- What a request reaches. -/
inductive Reach where
  | reading (kind : ResourceKind)
  | writing (kind : ResourceKind)
  | secrets
  | workloads
  | tool
  | files
  | events
  | metrics
  | clock
  | turns
  deriving DecidableEq

def Request.reach : {β : Type} → Request β → Reach
  | _, .get kind .. => .reading kind
  | _, .secret .. => .secrets
  | _, .create kind _ | _, .replace kind _ | _, .replaceStatus kind _ => .writing kind
  | _, .workload .. | _, .replaceWorkload .. | _, .pods .. | _, .deletePods .. => .workloads
  | _, .run _ => .tool
  | _, .file _ => .files
  | _, .publish _ => .events
  | _, .push .. => .metrics
  | _, .now | _, .sleep _ | _, .calendar => .clock
  | _, .acquire _ | _, .release | _, .start .. => .turns

@[simp] theorem Request.reach_get (kind : ResourceKind) (nameSpace name : String) :
    (Request.get kind nameSpace name).reach = .reading kind := rfl

/-- The program makes requests only that reach one of these. -/
def Touches {α : Type} (reach : List Reach) (p : Program Request α) : Prop :=
  Within (fun _ r => r.reach ∈ reach) p

namespace Action

def Touches {α : Type} (reach : List Reach) (a : Action α) : Prop :=
  ClusterBackup.Touches reach a.run

namespace Touches

variable {α β : Type} {reach : List Reach}

theorem mono {few many : List Reach} {a : Action α} (touches : Action.Touches few a)
    (fewer : few ⊆ many) : Action.Touches many a :=
  Within.mono (fun _ _ member => fewer member) touches

theorem pure (a : α) : Action.Touches reach (Pure.pure a : Action α) := trivial

theorem throw (failure : Failure) :
    Action.Touches reach (MonadExcept.throw failure : Action α) := trivial

theorem bind {x : Action α} {f : α → Action β} (first : Action.Touches reach x)
    (rest : ∀ a, Action.Touches reach (f a)) : Action.Touches reach (x >>= f) :=
  Within.bind_ok first rest

theorem attempt {x : Action α} (touches : Action.Touches reach x) :
    Action.Touches reach (Action.attempt x) :=
  Within.bind touches fun _ => trivial

theorem ask {r : Request (Except Failure α)} (member : r.reach ∈ reach) :
    Action.Touches reach (Action.ask r) :=
  Within.ask member

theorem tell {r : Request α} (member : r.reach ∈ reach) :
    Action.Touches reach (Action.tell r) :=
  Within.bind (Within.ask member) fun _ => trivial

theorem forM {ι : Type} {steps : List ι} {f : ι → Action PUnit}
    (each : ∀ i, Action.Touches reach (f i)) : Action.Touches reach (steps.forM f) := by
  induction steps with
  | nil => exact trivial
  | cons i rest ih => exact bind (each i) fun _ => ih

end Touches

end Action

/-- Nothing was exchanged that reaches this. -/
def Apart (reach : Reach) (trace : List (Exchange Request)) : Prop :=
  ∀ e ∈ trace, e.request.reach ≠ reach

@[simp] theorem apart_nil (reach : Reach) : Apart reach [] :=
  fun _ member => absurd member List.not_mem_nil

@[simp] theorem apart_cons (reach : Reach) (e : Exchange Request)
    (trace : List (Exchange Request)) :
    Apart reach (e :: trace) ↔ e.request.reach ≠ reach ∧ Apart reach trace :=
  List.forall_mem_cons

@[simp] theorem apart_append (reach : Reach) (first second : List (Exchange Request)) :
    Apart reach (first ++ second) ↔ Apart reach first ∧ Apart reach second :=
  List.forall_mem_append

theorem Touches.apart {α : Type} {few : List Reach} {reach : Reach} {p q : Program Request α}
    {trace : List (Exchange Request)} (touches : Touches few p) (path : Path p trace q)
    (missing : reach ∉ few) : Apart reach trace :=
  fun e member same => missing (same ▸ Within.path touches path e member)

section

/-- What the tool was asked, if it was asked, with its reply. -/
def toolCall? : Exchange Request → Option (Invocation × Except Failure String)
  | ⟨.run invocation, reply⟩ => some (invocation, reply)
  | _ => none

def event? : Exchange Request → Option Event
  | ⟨.publish event, _⟩ => some event
  | _ => none

def toolCalls (trace : List (Exchange Request)) : List (Invocation × Except Failure String) :=
  trace.filterMap toolCall?

def told (trace : List (Exchange Request)) : List Event := trace.filterMap event?

@[simp] theorem toolCalls_nil : toolCalls [] = [] := rfl

@[simp] theorem told_nil : told [] = [] := rfl

@[simp] theorem toolCalls_cons (e : Exchange Request) (trace : List (Exchange Request)) :
    toolCalls (e :: trace) = (toolCall? e).toList ++ toolCalls trace := by
  cases seen : toolCall? e <;> simp [toolCalls, seen]

@[simp] theorem told_cons (e : Exchange Request) (trace : List (Exchange Request)) :
    told (e :: trace) = (event? e).toList ++ told trace := by
  cases seen : event? e <;> simp [told, seen]

@[simp] theorem toolCalls_append (first second : List (Exchange Request)) :
    toolCalls (first ++ second) = toolCalls first ++ toolCalls second :=
  List.filterMap_append

@[simp] theorem told_append (first second : List (Exchange Request)) :
    told (first ++ second) = told first ++ told second :=
  List.filterMap_append

theorem toolCall?_eq_none {e : Exchange Request} (other : e.request.reach ≠ .tool) :
    toolCall? e = none := by
  obtain ⟨request, reply⟩ := e
  cases request with
  | run invocation => exact absurd rfl other
  | _ => rfl

theorem event?_eq_none {e : Exchange Request} (other : e.request.reach ≠ .events) :
    event? e = none := by
  obtain ⟨request, reply⟩ := e
  cases request with
  | publish event => exact absurd rfl other
  | _ => rfl

variable {α : Type} {reach : List Reach} {p q : Program Request α} {trace : List (Exchange Request)}

theorem Apart.toolCalls_eq_nil (apart : Apart .tool trace) : toolCalls trace = [] :=
  List.filterMap_eq_nil_iff.mpr fun e member => toolCall?_eq_none (apart e member)

theorem Apart.told_eq_nil (apart : Apart .events trace) : told trace = [] :=
  List.filterMap_eq_nil_iff.mpr fun e member => event?_eq_none (apart e member)

theorem Touches.toolCalls_eq_nil (touches : Touches reach p) (path : Path p trace q)
    (apart : .tool ∉ reach) : toolCalls trace = [] :=
  (touches.apart path apart).toolCalls_eq_nil

theorem Touches.told_eq_nil (touches : Touches reach p) (path : Path p trace q)
    (apart : .events ∉ reach) : told trace = [] :=
  (touches.apart path apart).told_eq_nil

theorem Touches.silent (touches : Touches reach p) (path : Path p trace q) (tool : .tool ∉ reach)
    (events : .events ∉ reach) : toolCalls trace = [] ∧ told trace = [] :=
  ⟨touches.toolCalls_eq_nil path tool, touches.told_eq_nil path events⟩

end

end ClusterBackup
