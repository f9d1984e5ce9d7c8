import ClusterBackup.Proofs.Rollout.Following
import ClusterBackup.Proofs.Rollout.Register

/-! What an edit of a workload replaces.

Whatever others write between its reads and its writes, an edit replaces the version that is stored
by the change of that version, once, or it replaces nothing. -/

set_option autoImplicit false

namespace ClusterBackup.Rollout

open Cluster Program

/-- What an edit may rely on of a change: it writes into the template and the annotations only, and
it fails only where there is no template. -/
structure Plain (change : Workload → Except Failure Workload) : Prop where
  here : ∀ {object edited}, change object = .ok edited → IsAt edited object.kind object.nameSpace object.name
  version : ∀ {object edited}, change object = .ok edited →
    edited.metadata.resourceVersion = object.metadata.resourceVersion
  failure : ∀ {object failure}, change object = .error failure → ∃ message, failure = .validation message

theorem plain_edit (edit : Sidecar.Edit) : Plain edit.apply where
  here changed := by
    obtain ⟨pod, _, rfl⟩ := Sidecar.Edit.of_apply_ok changed
    exact ⟨rfl, rfl, rfl⟩
  version changed := by
    obtain ⟨pod, _, rfl⟩ := Sidecar.Edit.of_apply_ok changed
    rfl
  failure failed := ⟨_, Sidecar.Edit.of_apply_error failed⟩

/-- What is stored in place of a version is the change of it. -/
def Carries (change : Workload → Except Failure Workload) (old new : Workload) : Prop :=
  ∃ edited version generation status,
    change old = .ok edited ∧ new = edited.stamped version generation status

/-- What an edit has replaced that ends with a result. -/
def Effect (change : Workload → Except Failure Workload) (before after : List (Workload × Workload)) :
    Except Failure Workload → Prop
  | .ok new => ∃ old, Carries change old new ∧ after = before ++ [(old, new)]
  | .error _ => after = before

def inConflict : Except Failure Workload → Bool
  | .ok _ => false
  | .error failure => failure.isConflict

def isConflict : Exchange Request → Bool
  | ⟨.workload .., .error failure⟩ => failure.isConflict
  | ⟨.replaceWorkload _, reply⟩ => inConflict reply
  | _ => false

def conflicts (trace : List (Exchange Request)) : Nat := trace.countP isConflict

@[simp] theorem conflicts_nil : conflicts [] = 0 := rfl

@[simp] theorem conflicts_cons (e : Exchange Request) (trace : List (Exchange Request)) :
    conflicts (e :: trace) = conflicts trace + (isConflict e).toNat := by
  cases meets : isConflict e <;> simp [conflicts, meets]

@[simp] theorem conflicts_append (first second : List (Exchange Request)) :
    conflicts (first ++ second) = conflicts first + conflicts second :=
  List.countP_append

def GivesUp (result : Except Failure Workload) : Prop :=
  ∃ failure, result = .error failure ∧ failure.isExhausted = true

section

variable {kind : WorkloadKind} {nameSpace name operation : String} {s t : Register kind nameSpace name}
  {w object : Workload} {change : Workload → Except Failure Workload} {n : Nat} {delay : Duration}
  {trace : List (Exchange Request)} {result : Except Failure Workload} {r : Rollout}

theorem not_givesUp {failure : Failure} (other : failure.isExhausted = false) :
    ¬ GivesUp (.error failure) := by
  rintro ⟨_, same, exhausted⟩
  cases same
  cases other.symm.trans exhausted

theorem Takes.known (takes : Takes w n trace object) (copy : w ∈ s.versions)
    (along : Along (Register.terms kind nameSpace name) trace s t) :
    object ∈ t.versions ∧ t.replaced = s.replaced ∧ conflicts trace = 0 := by
  cases takes with
  | given => exact ⟨along.1.subset copy, along.2, rfl⟩
  | read =>
    obtain ⟨rfl, rfl, rfl⟩ := s.here w copy
    obtain ⟨_, _, _, same, replies, rest⟩ := Register.along_cons along
    obtain ⟨rfl, found⟩ := replies.read
    exact ⟨rest.1.subset found, rest.2.trans same, rfl⟩

/-- A write replaces what was taken for it, if it is accepted: that is what is stored directly
before. -/
theorem Register.Accepts.effect {reply : Except Failure Workload} {edited : Workload}
    (accepts : s.Accepts edited reply t) (plain : Plain change) (changed : change object = .ok edited)
    (known : object ∈ s.versions) : Effect change s.replaced t.replaced reply := by
  cases accepts with
  | @swapped old version generation status _ stored same _ _ replaced =>
    -- No two versions share a resource version, so what is stored is what was taken.
    obtain rfl : old = object := List.inj_on_of_nodup_map s.distinct (s.mem_of_stored stored) known
      (same.trans (plain.version changed))
    exact ⟨old, ⟨edited, version, generation, status, changed, rfl⟩, replaced⟩

/-- An attempt replaces what it has taken, or nothing. -/
theorem Tried.effect (tried : Tried w change n trace result) (plain : Plain change)
    (copy : w ∈ s.versions) (along : Along (Register.terms kind nameSpace name) trace s t) :
    Effect change s.replaced t.replaced result ∧ ¬ GivesUp result ∧
      conflicts trace = (inConflict result).toNat := by
  cases tried with
  | unread =>
    obtain ⟨rfl, rfl, rfl⟩ := s.here w copy
    obtain ⟨_, _, _, same, ⟨rfl, replied⟩, rest⟩ := Register.along_cons along
    rcases replied ⟨rfl, rfl, rfl⟩ with impossible | ⟨_, refused, other⟩
    · cases impossible
    · cases refused
      exact ⟨rest.2.trans same, not_givesUp other, by simp [isConflict, inConflict]⟩
  | gone =>
    obtain ⟨_, _, _, same, ⟨rfl, _⟩, rest⟩ := Register.along_cons along
    exact ⟨rest.2.trans same, not_givesUp rfl, rfl⟩
  | unchanged takes failed =>
    obtain ⟨message, rfl⟩ := plain.failure failed
    obtain ⟨_, same, none⟩ := takes.known copy along
    exact ⟨same, not_givesUp rfl, none⟩
  | @sent before object edited _ takes changed =>
    obtain ⟨between, taken, wrote⟩ := along.split
    obtain ⟨known, same, none⟩ := takes.known copy taken
    -- Others may write between the reading and the write. What was taken stays a version then, though
    -- it may not be the stored one any more.
    obtain ⟨here, after, grown, kept, replies, rest⟩ := Register.along_cons wrote
    have known := grown.subset known
    have kept : here.replaced = s.replaced := kept.trans same
    have counted : conflicts (before ++ [⟨.replaceWorkload edited, result⟩]) = (inConflict result).toNat := by
      simp [none, isConflict]
    obtain ⟨rfl, rfl, rfl⟩ := here.here object known
    rcases replies.write (plain.here changed) with ⟨rfl, failure, rfl, other⟩ | accepts
    · exact ⟨rest.2.trans kept, not_givesUp other, counted⟩
    · have effect := accepts.effect plain changed known
      rw [kept, ← rest.2] at effect
      refine ⟨effect, ?_, counted⟩
      cases accepts
      rintro ⟨_, impossible, _⟩
      cases impossible

/-- The rounds of an edit, from an attempt on: one of them replaces what it has taken, or none
replaces anything. Bounded attempts are used up when all of them are in conflict. -/
theorem edits_effect (edits : Edits w change r operation n delay trace result) (plain : Plain change)
    (copy : w ∈ s.versions) (along : Along (Register.terms kind nameSpace name) trace s t) :
    Effect change s.replaced t.replaced result ∧
      (0 < n → n ≤ r.setting.policy.attempts →
        (GivesUp result ↔ conflicts trace + n = r.setting.policy.attempts + 1) ∧
        (GivesUp result → result = .error (.exhausted operation r.setting.policy.attempts))) := by
  unfold Edits at edits
  generalize (() : Unit) = memory, ended : (result, ()) = pair at edits
  -- The copy stays one of the versions from round to round, as these only grow. A round after which
  -- another one follows was in conflict, so it has replaced nothing.
  induction edits generalizing s with
  | done tried =>
    cases ended
    obtain ⟨effect, other, none⟩ := (tried_of_round tried).effect plain copy along
    have none : conflicts _ = 0 := none
    exact ⟨effect, fun _ _ => ⟨iff_of_false other (by omega), fun gives => absurd gives other⟩⟩
  | failed tried calm =>
    cases ended
    obtain ⟨effect, other, none⟩ := (tried_of_round tried).effect plain copy along
    rw [inConflict, calm] at none
    have none : conflicts _ = 0 := none
    exact ⟨effect, fun _ _ => ⟨iff_of_false other (by omega), fun gives => absurd gives other⟩⟩
  | @spent n _ _ _ _ _ tried conflict last =>
    cases ended
    obtain ⟨effect, _, one⟩ := (tried_of_round tried).effect plain copy along
    rw [inConflict, conflict] at one
    have one : conflicts _ = 1 := one
    refine ⟨effect, fun _ allowed => ?_⟩
    obtain rfl : n = r.setting.policy.attempts := by
      simp [RetryPolicy.isExhausted] at last
      omega
    exact ⟨iff_of_true ⟨_, rfl, rfl⟩ (by omega), fun _ => rfl⟩
  | @again n delay _ _ first rest _ _ tried conflict more _ ih =>
    obtain ⟨between, firstAlong, slept⟩ := along.split
    obtain ⟨before, after, grown, same, ⟨⟩, restAlong⟩ := Register.along_cons slept
    obtain ⟨effect, _, one⟩ := (tried_of_round tried).effect plain copy firstAlong
    rw [inConflict, conflict] at one
    have one : conflicts _ = 1 := one
    obtain ⟨later, counted⟩ :=
      ih (grown.subset ((Register.along_grows firstAlong).subset copy)) restAlong ended
    have kept : before.replaced = s.replaced := same.trans effect
    rw [kept] at later
    refine ⟨later, fun _ allowed => ?_⟩
    have more : n < r.setting.policy.attempts := by
      simp [RetryPolicy.isExhausted] at more
      omega
    obtain ⟨spent, named⟩ := counted (by omega) more
    refine ⟨spent.trans ?_, named⟩
    have quiet : isConflict (⟨Timed.sleep delay, ()⟩ : Exchange Request) = false := rfl
    simp only [conflicts_append, conflicts_cons, quiet, Bool.toNat_false]
    omega

end

section

variable {kind : WorkloadKind} {nameSpace name : String}

theorem meets_of_replies {β : Type} {request : Request β} {s : Register kind nameSpace name}
    (reply : β) (replies : s.Replies ⟨request, reply⟩ s) :
    ∃ reply t, Register.Meets kind nameSpace name s ⟨request, reply⟩ t :=
  ⟨reply, s, s, (Register.terms kind nameSpace name).rely_refl s, replies⟩

theorem refused_client {α : Type} : Refused (.error (.client "") : Except Failure α) :=
  ⟨_, rfl, rfl⟩

abbrev Ends {α : Type} (s : Register kind nameSpace name) (p : Program Request α) : Prop :=
  Inevitable (Register.Meets kind nameSpace name) (fun _ => False) (fun _ _ => True) p s

theorem ends_attempt (w : Workload) (change : Workload → Except Failure Workload) (n : Nat)
    (s : Register kind nameSpace name) : Ends s (attempt w change n).run := by
  have writes (object : Workload) (t : Register kind nameSpace name) :
      Ends t (do Action.ask (.replaceWorkload (← Action.ofExcept (change object))) :
        Action Workload).run := by
    refine .bind_parts ?_ fun edited u =>
      .ask (meets_of_replies _ (.inl ⟨rfl, fun _ => refused_client⟩)) fun _ _ _ _ => trivial
    cases change object <;> exact .done trivial
  have rereads (t : Register kind nameSpace name) : Ends t (reread w).run := by
    refine .bind_parts (.ask (meets_of_replies _ ⟨rfl, fun _ => .inr refused_client⟩)
      fun _ _ _ _ => trivial) fun found u => ?_
    cases found <;> exact .done trivial
  rw [attempt]
  by_cases first : n = 1
  · rw [if_pos first]
    exact writes w s
  · rw [if_neg first]
    exact .bind_parts (rereads s) writes

theorem ends_edit {r : Rollout} {w : Workload} {operation : String}
    {change : Workload → Except Failure Workload} (bounded : 0 < r.setting.policy.attempts)
    (s : Register kind nameSpace name) : Ends s (r.edit operation w change).run := by
  refine .bind ((inevitable_retryConflicts_of_bounded bounded (fun n _ t => ?_)
    fun delay t => meets_of_replies () (show t.Replies ⟨.sleep delay, ()⟩ t from rfl)).weaken
      fun _ _ _ => .done trivial)
  exact .bind ((ends_attempt w change n t).weaken fun _ _ _ => .done trivial)

end

/-- What comes of an edit that has come to its end. -/
structure Account (r : Rollout) (operation : String) (change : Workload → Except Failure Workload)
    (trace : List (Exchange Request)) (result : Except Failure Workload)
    (replaced : List (Workload × Workload)) : Prop where
  once : replaced.length ≤ 1
  carried : ∀ new, result = .ok new → ∃ old, replaced = [(old, new)] ∧ Carries change old new
  untouched : ∀ failure, result = .error failure → replaced = []
  exhausted : GivesUp result ↔ conflicts trace = r.setting.policy.attempts
  spent : GivesUp result → result = .error (.exhausted operation r.setting.policy.attempts)

/-- The edit of a call ends. It replaces the version that is stored directly before by the change
of that one, so that nothing that others have written is lost, or it fails and replaces nothing;
and the attempts are used up when each of them was in conflict. -/
theorem Errand.patch_accounted {kind : WorkloadKind} {nameSpace name : String}
    {s : Register kind nameSpace name} {w : Workload} (r : Rollout) (errand : Errand)
    (bounded : 0 < r.setting.policy.attempts) (copy : w ∈ s.versions) (fresh : s.replaced = []) :
    Ends s (errand.patch r w).run ∧
    ∀ trace result t, Path (errand.patch r w).run trace (.done result) →
      Along (Register.terms kind nameSpace name) trace s t →
      Account r errand.operation (errand.edit r w).apply trace result t.replaced := by
  refine ⟨ends_edit bounded s, fun trace result t path along => ?_⟩
  obtain ⟨effect, counted⟩ :=
    edits_effect (edits_of_path path) (plain_edit (errand.edit r w)) copy along
  obtain ⟨exhausted, spent⟩ := counted Nat.one_pos bounded
  have exhausted : GivesUp result ↔ conflicts trace = r.setting.policy.attempts :=
    exhausted.trans (by omega)
  cases result with
  | ok new =>
    obtain ⟨old, carries, same⟩ := effect
    rw [fresh, List.nil_append] at same
    refine ⟨by simp [same], fun written ended => ?_, fun _ impossible => ?_, exhausted, spent⟩
    · cases ended
      exact ⟨old, same, carries⟩
    · cases impossible
  | error failure =>
    have same : t.replaced = [] := effect.trans fresh
    refine ⟨by simp [same], fun _ impossible => ?_, fun _ _ => same, exhausted, spent⟩
    cases impossible

namespace Raced

open Stuck

def versioned (version : String) (w : Workload) : Workload := w.stamped (some version) none none

def given : Workload := versioned "1" web

/-- What others have made of the workload since it was read. -/
def labelled : Workload :=
  versioned "2" { web with
    metadata := { web.metadata with labels := some (Dictionary.empty.insert "tier" "front") } }

def edited : Workload :=
  (((Errand.adding daily).edit rollout given).apply labelled).toOption.getD labelled

def stored : Workload := versioned "3" edited

def before : Register .replicaSet "apps" "web" where
  stored := some labelled
  versions := [given, labelled]
  replaced := []
  here := by
    intro v member
    simp only [List.mem_cons, List.not_mem_nil, or_false] at member
    rcases member with rfl | rfl <;> exact ⟨rfl, rfl, rfl⟩
  distinct := by decide
  current := by
    rintro _ ⟨⟩
    rfl

def after : Register .replicaSet "apps" "web" where
  stored := some stored
  versions := [given, labelled, stored]
  replaced := [(labelled, stored)]
  here := by
    intro v member
    simp only [List.mem_cons, List.not_mem_nil, or_false] at member
    rcases member with rfl | rfl | rfl <;> exact ⟨rfl, rfl, rfl⟩
  distinct := by decide
  current := by
    rintro _ ⟨⟩
    rfl

/-- The first write is in conflict, and the second one is accepted. -/
def replies {β : Type} : Request β → Nat → β × Nat
  | .workload .., n => (.ok (some labelled), n)
  | .replaceWorkload _, 0 => (.error (.conflict "stale"), 1)
  | .replaceWorkload _, n + 1 => (.ok stored, n + 2)
  | r, n => (Simulation.Store.quiet r, n)

end Raced

open Raced Stuck in
/-- The sidecar is put into what others have stored since the workload was read. -/
theorem Errand.patch_accounted_raced : ∃ trace,
    Path ((Errand.adding daily).patch rollout given).run trace (.done (.ok stored)) ∧
      Along (Register.terms .replicaSet "apps" "web") trace before after ∧
      (∃ old, after.replaced = [(old, stored)] ∧
        Carries ((Errand.adding daily).edit rollout given).apply old stored) ∧
      ¬ conflicts trace = 3 := by
  have path := follow_path replies 9 ((Errand.adding daily).patch rollout given).run 0
  have along : Along (Register.terms .replicaSet "apps" "web")
      (follow replies 9 ((Errand.adding daily).patch rollout given).run 0).1 before after := by
    exact .next ⟨.inl ⟨rfl, fun _ => ⟨_, rfl, rfl⟩⟩, trivial⟩ (.next ⟨rfl, trivial⟩
      (.next ⟨⟨rfl, fun _ => .inl rfl⟩, trivial⟩
        (.next ⟨.inr (.swapped rfl rfl rfl rfl rfl), trivial⟩ ⟨List.prefix_rfl, rfl⟩)))
  have account := (Errand.patch_accounted rollout (.adding daily) (by decide)
    (show given ∈ before.versions from List.mem_cons_self) rfl).2 _ _ _ path along
  refine ⟨_, path, along, account.carried _ rfl, fun all => ?_⟩
  obtain ⟨_, impossible, _⟩ := account.exhausted.mpr all
  cases impossible

end ClusterBackup.Rollout
