import ClusterBackup.Proofs.Rollout.Attempts

/-! The versions of one workload in a cluster that is shared with others.

The cluster accepts a write only of the version that is stored, gives a version of its own to what
it stores, and replies with that. Others write too, and they may also delete the workload and make
it anew. -/

set_option autoImplicit false

namespace ClusterBackup

open Cluster Program

/-- The workload with what the cluster writes into it itself. -/
def Cluster.Workload.stamped (version : Option String) (generation : Option Int)
    (status : Option WorkloadStatus) (w : Workload) : Workload :=
  { w with
    metadata := { w.metadata with resourceVersion := version, generation }
    status }

def Failure.isExhausted : Failure → Bool
  | .exhausted .. => true
  | _ => false

namespace Rollout

/-- The workload of one key as it is stored, every version of it that was ever stored, in their
order, and what the calls have replaced by what. -/
structure Register (kind : WorkloadKind) (nameSpace name : String) where
  stored : Option Workload
  versions : List Workload
  replaced : List (Workload × Workload)
  here : ∀ v ∈ versions, IsAt v kind nameSpace name
  distinct : (versions.map (·.metadata.resourceVersion)).Nodup
  current : ∀ v, stored = some v → versions.getLast? = some v

variable {kind : WorkloadKind} {nameSpace name : String}

theorem Register.mem_of_stored (s : Register kind nameSpace name) {v : Workload}
    (stored : s.stored = some v) : v ∈ s.versions :=
  List.mem_of_getLast? (s.current v stored)

/-- A reply that is a failure. That attempts are used up only the program says itself. -/
def Refused {α : Type} (reply : Except Failure α) : Prop :=
  ∃ failure, reply = .error failure ∧ failure.isExhausted = false

def Rewrites : ⦃β : Type⦄ → Request β → Prop
  | _, .replaceWorkload _ => True
  | _, _ => False

theorem Quiet.not_rewrites {β : Type} {request : Request β} (quiet : Quiet request) :
    ¬ Rewrites request := by
  cases request <;> first | exact id | exact quiet.elim

namespace Register

/-- A write of the version that is stored. What is stored then is what was sent, with a version
that no other one has. -/
inductive Accepts (s : Register kind nameSpace name) (object : Workload) :
    Except Failure Workload → Register kind nameSpace name → Prop where
  | swapped {old : Workload} {version : Option String} {generation : Option Int}
      {status : Option WorkloadStatus} {t : Register kind nameSpace name} :
      s.stored = some old → old.metadata.resourceVersion = object.metadata.resourceVersion →
      t.stored = some (object.stamped version generation status) →
      t.versions = s.versions ++ [object.stamped version generation status] →
      t.replaced = s.replaced ++ [(old, object.stamped version generation status)] →
      Accepts s object (.ok (object.stamped version generation status)) t

/-- The replies of the cluster to the call. What is replied about other workloads is of no
account. -/
def Replies (s : Register kind nameSpace name) : Exchange Request → Register kind nameSpace name → Prop
  | ⟨.workload kind' nameSpace' name', reply⟩, t => t = s ∧
      ((kind' = kind ∧ nameSpace' = nameSpace ∧ name' = name) → reply = .ok s.stored ∨ Refused reply)
  | ⟨.replaceWorkload object, reply⟩, t =>
    (t = s ∧ (IsAt object kind nameSpace name → Refused reply)) ∨ s.Accepts object reply t
  | _, t => t = s

variable (kind nameSpace name) in
/-- Others store versions that none had before, and delete what is stored. -/
def terms : Terms Request (Register kind nameSpace name) where
  world := Replies
  rely s t := s.versions <+: t.versions ∧ t.replaced = s.replaced
  guarantee _ _ _ := True
  rely_refl _ := ⟨List.prefix_rfl, rfl⟩
  rely_trans first second := ⟨first.1.trans second.1, second.2.trans first.2⟩

variable (kind nameSpace name) in
/-- The replies that a call meets, after whatever the others have done. -/
def Meets (s : Register kind nameSpace name) (e : Exchange Request)
    (t : Register kind nameSpace name) : Prop :=
  ∃ between, (terms kind nameSpace name).rely s between ∧ between.Replies e t

variable {s t : Register kind nameSpace name}

theorem Replies.grows {e : Exchange Request} (replies : s.Replies e t) : s.versions <+: t.versions := by
  obtain ⟨request, reply⟩ := e
  cases request with
  | workload => exact replies.1 ▸ List.prefix_rfl
  | replaceWorkload object =>
    rcases replies with ⟨rfl, _⟩ | ⟨_, _, _, grown, _⟩
    · exact List.prefix_rfl
    · exact grown ▸ List.prefix_append _ _
  | _ => exact (show t = s from replies) ▸ List.prefix_rfl

theorem along_cons {e : Exchange Request} {rest : List (Exchange Request)}
    (along : Along (terms kind nameSpace name) (e :: rest) s t) :
    ∃ before after : Register kind nameSpace name, s.versions <+: before.versions ∧
      before.replaced = s.replaced ∧ before.Replies e after ∧ Along (terms kind nameSpace name) rest after t := by
  obtain ⟨before, after, ⟨grown, same⟩, ⟨replies, _⟩, rest⟩ := along
  exact ⟨before, after, grown, same, replies, rest⟩

theorem along_grows {trace : List (Exchange Request)}
    (along : Along (terms kind nameSpace name) trace s t) : s.versions <+: t.versions := by
  induction trace generalizing s with
  | nil => exact along.1
  | cons e rest ih =>
    obtain ⟨_, _, grown, _, replies, along⟩ := along_cons along
    exact (grown.trans replies.grows).trans (ih along)

theorem along_kept {trace : List (Exchange Request)} (other : ∀ e ∈ trace, ¬ Rewrites e.request)
    (along : Along (terms kind nameSpace name) trace s t) : t.replaced = s.replaced := by
  induction trace generalizing s with
  | nil => exact along.2
  | cons e rest ih =>
    rw [List.forall_mem_cons] at other
    obtain ⟨before, after, _, same, replies, along⟩ := along_cons along
    rw [ih other.2 along, ← same]
    obtain ⟨request, reply⟩ := e
    cases request with
    | workload => exact congrArg replaced replies.1
    | replaceWorkload object => exact absurd trivial other.1
    | _ => exact congrArg replaced (show after = before from replies)

theorem Replies.read {found : Workload}
    (replies : s.Replies ⟨.workload kind nameSpace name, .ok (some found)⟩ t) :
    t = s ∧ found ∈ s.versions := by
  rcases replies.2 ⟨rfl, rfl, rfl⟩ with read | ⟨_, impossible, _⟩
  · exact ⟨replies.1, s.mem_of_stored (Except.ok.inj read).symm⟩
  · cases impossible

theorem Replies.write {object : Workload} {reply : Except Failure Workload}
    (replies : s.Replies ⟨.replaceWorkload object, reply⟩ t) (here : IsAt object kind nameSpace name) :
    (t = s ∧ Refused reply) ∨ s.Accepts object reply t :=
  replies.imp_left fun ⟨same, refused⟩ => ⟨same, refused here⟩

end Register

end Rollout

end ClusterBackup
