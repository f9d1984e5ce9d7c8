import ClusterBackup.Proofs.Program.Inevitable
import ClusterBackup.Proofs.Store.Version
import ClusterBackup.Request

/-! What the store replies to the requests of programs.

A call of the store may also fail before it reaches the store, and then changes nothing. All
other requests leave the store alone, whatever their reply. -/

set_option autoImplicit false

namespace ClusterBackup.Simulation.Store

open Program

/-- The reply of a store that is reached, and what becomes of the store. -/
def Honest : {β : Type} → Request β → Store → β → Store → Prop
  | _, .get kind nameSpace name, s, reply, t => reply = .ok (s.find? kind nameSpace name) ∧ t = s
  | _, .create kind object, s, reply, t => (reply, t) = s.create kind object
  | _, .replace kind object, s, reply, t => (reply, t) = s.replace kind object
  | _, .replaceStatus kind object, s, reply, t => (reply, t) = s.replace kind object
  | _, .secret nameSpace name, s, reply, t => reply = .ok (s.secret? nameSpace name) ∧ t = s
  | _, _, s, _, t => t = s

/-- The replies of a store that is always reached. -/
def Serves (s : Store) (e : Exchange Request) (t : Store) : Prop := Honest e.request s e.reply t

/-- A reply of the store that is a failure. Only an object that exists is in conflict with
another one of its name. -/
def Failing : {β : Type} → Request β → β → Prop
  | _, .get .., reply => ∃ failure, reply = .error failure
  | _, .create .., reply => ∃ failure, reply = .error failure ∧ failure.isConflict = false
  | _, .replace .., reply => ∃ failure, reply = .error failure
  | _, .replaceStatus .., reply => ∃ failure, reply = .error failure
  | _, .secret .., reply => ∃ failure, reply = .error failure
  | _, _, _ => False

/-- The replies of a store that may be out of reach now and then. -/
def Answers (s : Store) (e : Exchange Request) (t : Store) : Prop :=
  s.Serves e t ∨ (t = s ∧ Failing e.request e.reply)

/-- Others go on as long as something stays, and then a call of the store succeeds. -/
def Succeeds (stays : Store → Prop) (s : Store) (e : Exchange Request) (t : Store) : Prop :=
  ∃ between, (stays s → stays between) ∧ between.Serves e t ∧ ¬ Failing e.request e.reply

section

variable {stays : Store → Prop} {goal : Exchange Request → Prop} {kind : ResourceKind} {s : Store}

theorem inevitable_get (nameSpace name : String) (holds : stays s) :
    Inevitable (Succeeds stays) goal
      (fun r t => r = .ok (t.find? kind nameSpace name) ∧ stays t)
      (Program.ask (.get kind nameSpace name)) s := by
  refine .ask ⟨.ok (s.find? kind nameSpace name), s, s, id, ⟨rfl, rfl⟩, nofun⟩ ?_
  rintro _ _ ⟨between, keeps, ⟨rfl, rfl⟩, _⟩ _
  exact ⟨rfl, keeps holds⟩

theorem inevitable_replaceStatus {object written : Resource kind} {t : Store}
    {post : Except Failure (Resource kind) → Store → Prop}
    (replaced : s.replace kind object = (.ok written, t))
    (reached : ∀ written, goal ⟨.replaceStatus kind object, .ok written⟩) :
    Inevitable (Succeeds stays) goal post (Program.ask (.replaceStatus kind object)) s := by
  refine .ask ⟨.ok written, t, s, id, replaced.symm, nofun⟩ ?_
  rintro (failure | written) _ ⟨_, _, _, succeeded⟩ missed
  · exact absurd ⟨failure, rfl⟩ succeeded
  · exact absurd (reached written) missed

end

/-- The reply of a store that is always reached; all that is not the store's is left to others. -/
def serve (others : {β : Type} → Request β → β) : {β : Type} → Request β → Store → β × Store
  | _, .get kind nameSpace name, s => (.ok (s.find? kind nameSpace name), s)
  | _, .create kind object, s => s.create kind object
  | _, .replace kind object, s => s.replace kind object
  | _, .replaceStatus kind object, s => s.replace kind object
  | _, .secret nameSpace name, s => (.ok (s.secret? nameSpace name), s)
  | _, r, s => (others r, s)

theorem honest_serve (others : {β : Type} → Request β → β) {β : Type} (r : Request β) (s : Store) :
    Honest r s (serve others r s).1 (serve others r s).2 := by
  cases r with
  | get | secret => exact ⟨rfl, rfl⟩
  | _ => rfl

def quiet : {β : Type} → Request β → β
  | _, .get .. => .ok none
  | _, .create _ object => .ok object
  | _, .replace _ object => .ok object
  | _, .replaceStatus _ object => .ok object
  | _, .secret .. => .ok none
  | _, .workload .. => .ok none
  | _, .replaceWorkload workload => .ok workload
  | _, .pods .. => .ok []
  | _, .deletePods .. => .ok ()
  | _, .run _ => .ok ""
  | _, .file _ => .ok ()
  | _, .publish _ => ()
  | _, .push .. => ()
  | _, .now => ⟨0⟩
  | _, .sleep _ => ()
  | _, .calendar => ⟨0, 0⟩
  | _, .acquire _ => .ok ()
  | _, .release => ()
  | _, .start .. => ()

def accepts : {β : Type} → Request β → β → Bool
  | _, .replace .., reply => reply.isOk
  | _, .replaceStatus .., reply => reply.isOk
  | _, _, _ => false

/-- A replacement that the store accepted. -/
def isAccepted (e : Exchange Request) : Bool := accepts e.request e.reply

end ClusterBackup.Simulation.Store
