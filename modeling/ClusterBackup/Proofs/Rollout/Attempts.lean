import ClusterBackup.Proofs.Retry.Rounds
import ClusterBackup.Proofs.Rollout.Calls
import ClusterBackup.Proofs.Sidecar.Edits

/-! What the edit of a workload exchanges, attempt by attempt.

Replies are of any kind. The first attempt takes the workload as it was given, and every further
one as it was read anew. -/

set_option autoImplicit false

namespace ClusterBackup

open Cluster Program

namespace Rollout

namespace Errand

/-- The change of the template that a call makes. The container is made for the workload that was
given, whatever is read later. -/
def edit (r : Rollout) (w : Workload) : Errand → Sidecar.Edit
  | .adding config =>
    .add config config w.kind w.name r.setting.options (Sidecar.imageTag config r.setting.options)
  | .removing => .remove

def operation : Errand → String
  | .adding _ => "add sidecar"
  | .removing => "remove sidecar"

/-- The edit of a call, written back. -/
def patch (r : Rollout) (w : Workload) (errand : Errand) : Action Workload :=
  r.edit errand.operation w (errand.edit r w).apply

end Errand

section

variable (w : Workload) (change : Workload → Except Failure Workload)

def attempt (n : Nat) : Action Workload := do
  let object ← if n = 1 then pure w else reread w
  Action.ask (.replaceWorkload (← Action.ofExcept (change object)))

/-- What an attempt takes, and what it exchanges for it. -/
inductive Takes : Nat → List (Exchange Request) → Workload → Prop where
  | given : Takes 1 [] w
  | read {n : Nat} {found : Workload} : n ≠ 1 →
      Takes n [⟨.workload w.kind w.nameSpace w.name, .ok (some found)⟩] found

/-- What an attempt exchanges, and how it ends. -/
inductive Tried : Nat → List (Exchange Request) → Except Failure Workload → Prop where
  | unread {n : Nat} {failure : Failure} : n ≠ 1 →
      Tried n [⟨.workload w.kind w.nameSpace w.name, .error failure⟩] (.error failure)
  | gone {n : Nat} : n ≠ 1 →
      Tried n [⟨.workload w.kind w.nameSpace w.name, .ok none⟩]
        (.error (.notFound w.kind.name w.nameSpace w.name))
  | unchanged {n : Nat} {before : List (Exchange Request)} {object : Workload} {failure : Failure} :
      Takes w n before object → change object = .error failure → Tried n before (.error failure)
  | sent {n : Nat} {before : List (Exchange Request)} {object edited : Workload}
      {reply : Except Failure Workload} :
      Takes w n before object → change object = .ok edited →
      Tried n (before ++ [⟨.replaceWorkload edited, reply⟩]) reply

abbrev Edits (r : Rollout) (name : String) (n : Nat) (delay : Duration)
    (trace : List (Exchange Request)) (result : Except Failure Workload) : Prop :=
  Rounds r.setting.policy name (fun n () => do return (← (attempt w change n).run, ())) n delay ()
    trace (result, ())

end

variable {w object : Workload} {change : Workload → Except Failure Workload} {n : Nat}
  {trace : List (Exchange Request)} {result : Except Failure Workload} {r : Rollout} {name : String}

theorem tried_of_take {before rest : List (Exchange Request)} (takes : Takes w n before object)
    (path : Path (do Action.ask (.replaceWorkload (← Action.ofExcept (change object))) :
      Action Workload).run rest (.done result)) :
    Tried w change n (before ++ rest) result := by
  rcases Path.of_bind_ok path with ⟨failure, rfl, ended⟩ | ⟨edited, _, rest, rfl, ended, wrote⟩
  · obtain ⟨rfl, failed⟩ := Path.of_done ended
    rw [List.append_nil]
    exact .unchanged takes failed.symm
  · obtain ⟨rfl, changed⟩ := Path.of_done ended
    obtain rfl := Action.of_ask wrote
    exact .sent takes changed.symm

theorem of_reread {found : Except Failure Workload}
    (path : Path (reread w).run trace (.done found)) :
    (∃ failure, trace = [⟨.workload w.kind w.nameSpace w.name, .error failure⟩] ∧
        found = .error failure) ∨
      (trace = [⟨.workload w.kind w.nameSpace w.name, .ok none⟩] ∧
        found = .error (.notFound w.kind.name w.nameSpace w.name)) ∨
      ∃ object, trace = [⟨.workload w.kind w.nameSpace w.name, .ok (some object)⟩] ∧
        found = .ok object := by
  rcases Path.of_bind_ok path with ⟨failure, rfl, ended⟩ | ⟨reply, first, rest, rfl, read, going⟩
  · exact .inl ⟨failure, Action.of_ask ended, rfl⟩
  · obtain rfl := Action.of_ask read
    cases reply with
    | none =>
      obtain ⟨rfl, rfl⟩ := Path.of_done going
      exact .inr (.inl ⟨rfl, rfl⟩)
    | some object =>
      obtain ⟨rfl, rfl⟩ := Path.of_done going
      exact .inr (.inr ⟨object, rfl, rfl⟩)

theorem tried_of_path (path : Path (attempt w change n).run trace (.done result)) :
    Tried w change n trace result := by
  rw [attempt] at path
  by_cases first : n = 1
  · subst first
    exact tried_of_take .given path
  · rw [if_neg first] at path
    rcases Path.of_bind_ok path with ⟨failure, rfl, ended⟩ | ⟨object, before, rest, rfl, read, going⟩
    · rcases of_reread ended with ⟨_, rfl, same⟩ | ⟨rfl, same⟩ | ⟨_, _, impossible⟩
      · cases same
        exact .unread first
      · cases same
        exact .gone first
      · cases impossible
    · rcases of_reread read with ⟨_, _, impossible⟩ | ⟨_, impossible⟩ | ⟨_, rfl, same⟩
      · cases impossible
      · cases impossible
      · cases same
        exact tried_of_take (.read first) going

theorem edits_of_path (path : Path (r.edit name w change).run trace (.done result)) :
    Edits w change r name 1 r.setting.policy.initial trace result := by
  obtain ⟨⟨answer, _⟩, first, rest, rfl, rounds, ended⟩ := Path.of_bind path
  obtain ⟨rfl, rfl⟩ := Path.of_done ended
  rw [List.append_nil]
  exact Rounds.of_path rounds

theorem tried_of_round
    (path : Path (do return (← (attempt w change n).run, ()) : Program Request _) trace
      (.done (result, ()))) :
    Tried w change n trace result := by
  obtain ⟨answer, first, rest, rfl, tried, ended⟩ := Path.of_bind path
  obtain ⟨rfl, same⟩ := Path.of_done ended
  cases same
  rw [List.append_nil]
  exact tried_of_path tried

theorem tried_of_edits {delay : Duration} {updated : Workload}
    (edits : Edits w change r name n delay trace (.ok updated)) :
    ∃ earlier last m, trace = earlier ++ last ∧ Tried w change m last (.ok updated) := by
  unfold Edits at edits
  generalize (() : Unit) = memory,
    ended : ((.ok updated : Except Failure Workload), ()) = pair at edits
  induction edits with
  | @done n =>
    cases ended
    exact ⟨[], _, n, rfl, tried_of_round ‹_›⟩
  | failed => cases ended
  | spent => cases ended
  | @again _ delay _ _ first _ _ _ _ _ _ _ ih =>
    obtain ⟨earlier, last, m, rfl, tried⟩ := ih ended
    exact ⟨first ++ ⟨Timed.sleep delay, ()⟩ :: earlier, last, m, by simp, tried⟩

end Rollout

end ClusterBackup
