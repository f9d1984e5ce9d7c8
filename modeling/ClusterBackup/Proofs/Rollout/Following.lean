import ClusterBackup.Proofs.Rollout.Calls
import ClusterBackup.Proofs.Store.Answers

/-! Whether the pods of a workload follow its template, after calls one after another.

A call tells from the annotation alone whether there is anything to do. The annotation is written
with the template and before the pods are deleted, so what one call has left undone between the
two no later call takes up. -/

set_option autoImplicit false

namespace ClusterBackup.Rollout

open Cluster Program

/-- After every change of the template the pods were deleted. -/
def Follows (history : List Happening) : Prop :=
  ∀ before after, history = before ++ .edited :: after → .restarted ∈ after

section

variable {history part : List Happening}

theorem follows_iff : Follows history ↔ history.getLast? ≠ some .edited := by
  constructor
  · intro follows last
    obtain ⟨before, same⟩ := List.getLast?_eq_some_iff.mp last
    exact absurd (follows before [] same) List.not_mem_nil
  · rintro last before after rfl
    rcases List.eq_nil_or_concat after with rfl | ⟨more, happening, rfl⟩
    · exact absurd (by simp) last
    · rw [List.concat_eq_append] at last ⊢
      cases happening with
      | edited =>
        rw [← List.cons_append, ← List.append_assoc] at last
        exact absurd (List.getLast?_concat) last
      | restarted => simp

/-- What has happened last decides. -/
theorem follows_append (happened : part ≠ []) : Follows (history ++ part) ↔ Follows part := by
  obtain ⟨init, last, rfl⟩ := (List.eq_nil_or_concat part).resolve_left happened
  rw [follows_iff, follows_iff, List.concat_eq_append, ← List.append_assoc]
  simp

theorem follows_restarted (history part : List Happening) :
    Follows (history ++ (part ++ [.restarted])) := by
  rw [follows_iff, ← List.append_assoc]
  simp

end

/-- A call with its result, and with what has come of it. -/
structure Turn where
  rollout : Rollout
  errand : Errand
  given : Workload
  result : Except Failure Unit
  part : List Happening

namespace Turn

def IsIdle (turn : Turn) : Prop := turn.errand.IsIdle turn.given

/-- The call was given the workload as it was stored, and has come to its end. -/
structure Taken (turn : Turn) (s t : Situation) : Prop where
  given : turn.given = s.stored
  ran : ∃ trace, Path (turn.errand.run turn.rollout turn.given).run trace (.done turn.result) ∧
    Along terms trace s t
  adds : t.history = s.history ++ turn.part

variable {turn : Turn} {s t : Situation} {selector : LabelSelector}

/-- A call has nothing to do and does nothing, or it deletes the pods before it succeeds. -/
theorem Taken.cases (taken : turn.Taken s t)
    (keeps : s.stored.kind.rollsOnTemplateChange = false)
    (selects : s.stored.selector? = some selector) :
    Alike s.stored t.stored ∧ ((turn.IsIdle ∧ turn.part = []) ∨
      (¬ turn.IsIdle ∧ (turn.result = .ok () → ∃ part, turn.part = part ++ [.restarted]))) := by
  obtain ⟨given, ⟨trace, path, along⟩, adds⟩ := taken
  by_cases idle : turn.IsIdle
  · -- Nothing is exchanged, so whatever is different in the end is what others have done.
    rw [run_of_idle idle] at path
    obtain ⟨rfl, ended⟩ := Path.of_done path
    obtain ⟨alike, same⟩ : terms.rely s t := along
    exact ⟨alike, .inl ⟨idle, List.append_right_eq_self.mp (adds.symm.trans same)⟩⟩
  · have closed : Closed turn.given s.history turn.result t :=
      (ensures_run (by rw [given]; exact keeps) (by rw [given]; exact selects) idle
        ⟨given ▸ .refl _, List.prefix_refl _⟩).along path along t (terms.rely_refl t)
    refine ⟨given ▸ closed.alike, .inr ⟨idle, fun ended => ?_⟩⟩
    rw [ended] at closed
    obtain ⟨_, part, same⟩ := closed
    exact ⟨part, List.append_cancel_left (adds.symm.trans same)⟩

end Turn

/-- Calls one after another, each of them given the workload as it is stored then. -/
inductive Series : Situation → List Turn → Situation → Prop where
  | start (s : Situation) : Series s [] s
  | next {s t u : Situation} {turns : List Turn} {turn : Turn} :
      Series s turns t → turn.Taken t u → Series s (turns ++ [turn]) u

/-- A call has failed between its change of the template and the deletion of the pods, and no
call after it has done anything. -/
def LeftOff (turns : List Turn) : Prop :=
  ∃ earlier broken later, turns = earlier ++ broken :: later ∧
    (∃ failure, broken.result = .error failure) ∧ ¬ Follows broken.part ∧
      ∀ turn ∈ later, turn.part = []

section

variable {turns : List Turn} {turn : Turn} {s t : Situation} {selector : LabelSelector}

theorem leftOff_concat : LeftOff (turns ++ [turn]) ↔ (turn.part = [] ∧ LeftOff turns) ∨
    ((∃ failure, turn.result = .error failure) ∧ ¬ Follows turn.part) := by
  constructor
  · rintro ⟨earlier, broken, later, same, failed, edited, idle⟩
    -- The last call is the one that was left off, or one of those after it.
    rcases List.eq_nil_or_concat later with rfl | ⟨more, last, rfl⟩
    · obtain ⟨_, last⟩ := List.append_inj' same rfl
      obtain rfl := List.singleton_inj.mp last
      exact .inr ⟨failed, edited⟩
    · rw [List.concat_eq_append] at same idle
      rw [← List.cons_append, ← List.append_assoc] at same
      obtain ⟨rfl, last⟩ := List.append_inj' same rfl
      obtain rfl := List.singleton_inj.mp last
      refine .inl ⟨idle _ (List.mem_append_right _ (List.mem_singleton_self _)),
        earlier, broken, more, rfl, failed, edited, fun turn member => ?_⟩
      exact idle turn (List.mem_append_left _ member)
  · rintro (⟨nothing, earlier, broken, later, rfl, failed, edited, idle⟩ | ⟨failed, edited⟩)
    · refine ⟨earlier, broken, later ++ [turn], by simp, failed, edited, fun other member => ?_⟩
      rcases List.mem_append.mp member with member | last
      · exact idle other member
      · exact (List.mem_singleton.mp last) ▸ nothing
    · exact ⟨turns, turn, [], rfl, failed, edited, fun _ member => absurd member List.not_mem_nil⟩

theorem Series.of_concat (series : Series s (turns ++ [turn]) t) :
    ∃ between, Series s turns between ∧ turn.Taken between t := by
  generalize whole : turns ++ [turn] = all at series
  cases series with
  | start => exact absurd whole (by simp)
  | next before taken =>
    obtain ⟨rfl, last⟩ := List.append_inj' whole rfl
    obtain rfl := List.singleton_inj.mp last
    exact ⟨_, before, taken⟩

theorem Series.alike (series : Series s turns t)
    (keeps : s.stored.kind.rollsOnTemplateChange = false)
    (selects : s.stored.selector? = some selector) : Alike s.stored t.stored := by
  induction series with
  | start => exact .refl _
  | next _ taken before =>
    exact before.trans (taken.cases (before.kind ▸ keeps) (before.selector.trans selects)).1

/-- The pods do not follow the template only after a call that was left off. -/
theorem Series.follows_iff (series : Series s turns t)
    (keeps : s.stored.kind.rollsOnTemplateChange = false)
    (selects : s.stored.selector? = some selector) (follows : Follows s.history) :
    Follows t.history ↔ ¬ LeftOff turns := by
  induction series with
  | start =>
    refine iff_of_true follows ?_
    rintro ⟨_, _, _, same, _⟩
    exact absurd same (by simp)
  | @next t u turns turn series taken ih =>
    have before := series.alike keeps selects
    obtain ⟨_, done⟩ := taken.cases (before.kind ▸ keeps) (before.selector.trans selects)
    rw [leftOff_concat, taken.adds]
    by_cases nothing : turn.part = []
    · have unchanged : Follows turn.part := by simp [nothing, Rollout.follows_iff]
      simp [nothing, ih, nothing ▸ unchanged]
    · rw [follows_append nothing]
      -- A call that has done something and left the pods behind has failed.
      have failed : ¬ Follows turn.part → ∃ failure, turn.result = .error failure := by
        intro behind
        rcases done with ⟨_, none⟩ | ⟨_, restarts⟩
        · exact absurd none nothing
        · cases ended : turn.result with
          | error failure => exact ⟨failure, rfl⟩
          | ok _ =>
            obtain ⟨part, same⟩ := restarts ended
            exact absurd (same ▸ follows_restarted [] part) behind
      constructor
      · rintro follows (⟨none, _⟩ | ⟨_, behind⟩)
        · exact nothing none
        · exact behind follows
      · intro complete
        refine Classical.byContradiction fun behind => complete (.inr ⟨failed behind, behind⟩)

/-- When a call succeeds, the pods follow the template, unless the call had nothing to do and an
earlier one was left off. -/
theorem follows_of_ok_iff {last : Turn} (series : Series s (turns ++ [last]) t)
    (keeps : s.stored.kind.rollsOnTemplateChange = false)
    (selects : s.stored.selector? = some selector) (fresh : s.history = [])
    (ok : last.result = .ok ()) :
    Follows t.history ↔ ¬ (last.IsIdle ∧ LeftOff turns) := by
  obtain ⟨u, before, taken⟩ := series.of_concat
  have alike := before.alike keeps selects
  have first : Follows s.history := by simp [fresh, Rollout.follows_iff]
  obtain ⟨_, ⟨idle, nothing⟩ | ⟨busy, restarts⟩⟩ :=
    taken.cases (alike.kind ▸ keeps) (alike.selector.trans selects)
  · rw [taken.adds, nothing, List.append_nil, before.follows_iff keeps selects first, not_and]
    exact ⟨fun complete _ => complete, fun complete => complete idle⟩
  · obtain ⟨part, same⟩ := restarts ok
    refine iff_of_true ?_ fun left => busy left.1
    rw [taken.adds, same]
    exact follows_restarted u.history part

end

namespace Stuck

def web : Workload :=
  { kind := .replicaSet
    metadata := Metadata.named "apps" "web"
    spec := some {
      selector := some { labels := some (Dictionary.empty.insert "app" "web") }
      template := some { spec := some { containers := [{ name := "main" }] } } } }

def daily : Configuration :=
  { metadata := Metadata.named "apps" "daily"
    spec := { backend := { gcs := some ⟨"bucket", ""⟩, secretName := "keys" } } }

def keys : Secret := { metadata := Metadata.named "apps" "keys" }

/-- The pods cannot be deleted. -/
def denied {β : Type} : Request β → Unit → β × Unit
  | .secret _ _, s => (.ok (some keys), s)
  | .deletePods _ _, s => (.error (.client "denied"), s)
  | r, s => (Simulation.Store.quiet r, s)

def rollout : Rollout := { setting := ⟨{}, .conflict⟩ }

def container : Container := Sidecar.container daily .replicaSet "web" {}

def carrying : Workload :=
  (Sidecar.add web daily container (Sidecar.imageTag daily {})).toOption.getD web

def broken : Turn := ⟨rollout, .adding daily, web, .error (.client "denied"), [.edited]⟩

def idle : Turn := ⟨rollout, .adding daily, carrying, .ok (), []⟩

theorem template_carrying : template? carrying ≠ template? web := by
  intro same
  have containers : some 2 = some 1 :=
    congrArg (fun template => template.bind fun t => t.spec.map (·.containers.length)) same
  cases containers

theorem taken_broken : broken.Taken ⟨web, []⟩ ⟨carrying, [.edited]⟩ := by
  have replaced : Replies ⟨web, []⟩ ⟨.replaceWorkload carrying, .ok carrying⟩
      ⟨carrying, [.edited]⟩ := by
    refine .inr ⟨.refl _, .inl ⟨template_carrying, rfl⟩, fun w same => ?_⟩
    cases same
    rfl
  have refused : Replies ⟨carrying, [.edited]⟩
      ⟨.deletePods "apps" "app=web", .error (.client "denied")⟩ ⟨carrying, [.edited]⟩ :=
    ⟨rfl, .inr ⟨(nomatch ·.2), rfl⟩⟩
  refine ⟨rfl, ⟨_, follow_path denied 9 (Errand.run rollout web (.adding daily)).run (), ?_⟩, rfl⟩
  exact ⟨_, _, terms.rely_refl _, ⟨rfl, trivial⟩, _, _, terms.rely_refl _, ⟨replaced, trivial⟩,
    _, _, terms.rely_refl _, ⟨refused, trivial⟩, _, _, terms.rely_refl _, ⟨rfl, trivial⟩,
    terms.rely_refl _⟩

theorem taken_idle : idle.Taken ⟨carrying, [.edited]⟩ ⟨carrying, [.edited]⟩ :=
  ⟨rfl, ⟨[], .here _, terms.rely_refl _⟩, rfl⟩

end Stuck

open Stuck in
/-- The call after one that was left off has nothing to do, and the pods stay as they are. -/
theorem follows_of_ok_iff_stuck : ∃ t, Series ⟨web, []⟩ [broken, idle] t ∧
    idle.result = .ok () ∧ ¬ Follows t.history := by
  have series : Series ⟨web, []⟩ ([broken] ++ [idle]) ⟨carrying, [.edited]⟩ :=
    .next (.next (.start _) taken_broken) taken_idle
  refine ⟨_, series, rfl, fun follows => ?_⟩
  refine (follows_of_ok_iff series rfl rfl rfl rfl).mp follows ⟨rfl, ?_⟩
  refine ⟨[], broken, [], rfl, ⟨_, rfl⟩, ?_, fun _ member => absurd member List.not_mem_nil⟩
  exact fun follows => absurd (follows [] [] rfl) List.not_mem_nil

end ClusterBackup.Rollout
