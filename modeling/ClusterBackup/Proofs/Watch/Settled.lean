import ClusterBackup.Proofs.Rollout.Again
import ClusterBackup.Watch.Reconcile

/-! A workload asks for nothing any more once it has what it asks for.

What a workload asks for depends on its key, its labels, its owners and the annotation of the
sidecar. The edit that it asks for writes the annotation and leaves the others alone. -/

set_option autoImplicit false

namespace ClusterBackup

open Cluster Program Rollout

namespace Sidecar

variable {w : Workload} {pod : PodSpec}

theorem add_eq (template : w.podSpec? = some pod) (config : Configuration) (c : Container) (tag : String) :
    ∃ other, add w config c tag = .ok (w.rewritten other (some
      (((w.metadata.annotations.getD .empty).insert ownerAnnotation config.name).insert tagAnnotation tag))) := by
  simp only [add, podSpec, template]
  exact ⟨_, rfl⟩

theorem get?_owner_added (present : Dictionary) (config tag : String) :
    ((present.insert ownerAnnotation config).insert tagAnnotation tag).get? ownerAnnotation =
      some config := by
  rw [Dictionary.get?_insert, if_neg (by decide), Dictionary.get?_insert, if_pos rfl]

theorem get?_owner_removed (present : Option Dictionary) :
    (Edit.remove.annotations present).bind (·.get? ownerAnnotation) = none :=
  Edit.get?_remove_annotations (.inl rfl) present

end Sidecar

namespace Trigger

variable {w : Workload} {configs : List Configuration} {config : Configuration} {owner : String}

/-- A workload asks for the sidecar of the configuration that it should carry and does not, or to be
rid of one, or for nothing. -/
theorem ofWorkload_cases (w : Workload) (configs : List Configuration) :
    (∃ config, ofWorkload w configs = .add config ∧ desired? w configs = some config ∧
        w.annotation? Sidecar.ownerAnnotation ≠ some config.name) ∨
      (∃ owner, ofWorkload w configs = .remove owner ∧ desired? w configs = none ∧
        w.annotation? Sidecar.ownerAnnotation = some owner) ∨
      ofWorkload w configs = .unchanged := by
  unfold ofWorkload
  by_cases managed : w.isManaged = true
  · exact .inr (.inr (if_pos managed))
  rw [if_neg managed]
  cases desired : desired? w configs with
  | none =>
    cases w.annotation? Sidecar.ownerAnnotation with
    | none => exact .inr (.inr rfl)
    | some owner => exact .inr (.inl ⟨owner, rfl, rfl, rfl⟩)
  | some config =>
    cases w.annotation? Sidecar.ownerAnnotation with
    | none => exact .inl ⟨config, rfl, rfl, nofun⟩
    | some owner =>
      by_cases same : owner = config.name
      · exact .inr (.inr (if_pos same))
      · exact .inl ⟨config, if_neg same, rfl, fun carried => same (Option.some.inj carried)⟩

theorem of_add (asked : ofWorkload w configs = .add config) :
    desired? w configs = some config ∧ w.annotation? Sidecar.ownerAnnotation ≠ some config.name := by
  rcases ofWorkload_cases w configs with ⟨_, same, needed⟩ | ⟨_, same, _⟩ | same
  · cases asked.symm.trans same
    exact needed
  · cases asked.symm.trans same
  · cases asked.symm.trans same

theorem of_remove (asked : ofWorkload w configs = .remove owner) :
    desired? w configs = none ∧ w.annotation? Sidecar.ownerAnnotation = some owner := by
  rcases ofWorkload_cases w configs with ⟨_, same, _⟩ | ⟨_, same, needed⟩ | same
  · cases asked.symm.trans same
  · cases asked.symm.trans same
    exact needed
  · cases asked.symm.trans same

/-- A workload that carries the sidecar of the configuration it should carry, or none if it should
carry none. -/
theorem unchanged_of_desired
    (carried : w.annotation? Sidecar.ownerAnnotation = (desired? w configs).map (·.name)) :
    ofWorkload w configs = .unchanged := by
  unfold ofWorkload
  cases desired : desired? w configs with
  | none =>
    rw [desired] at carried
    simp only [carried, Option.map_none, ite_self]
  | some config =>
    rw [desired] at carried
    simp only [carried, Option.map_some, if_true, ite_self]

end Trigger

namespace Watch

variable {w : Workload} {configs : List Configuration}

theorem desired?_rewritten (w : Workload) (pod : PodSpec) (annotations : Option Dictionary)
    (configs : List Configuration) : desired? (w.rewritten pod annotations) configs = desired? w configs :=
  rfl

theorem unchanged_of_added {config : Configuration} (asked : Trigger.ofWorkload w configs = .add config)
    {pod : PodSpec} {annotations : Option Dictionary}
    (owner : annotations.bind (·.get? Sidecar.ownerAnnotation) = some config.name) :
    Trigger.ofWorkload (w.rewritten pod annotations) configs = .unchanged := by
  refine Trigger.unchanged_of_desired ?_
  rw [desired?_rewritten, (Trigger.of_add asked).1]
  exact owner

theorem unchanged_of_removed {owner : String} (asked : Trigger.ofWorkload w configs = .remove owner)
    {pod : PodSpec} {annotations : Option Dictionary}
    (gone : annotations.bind (·.get? Sidecar.ownerAnnotation) = none) :
    Trigger.ofWorkload (w.rewritten pod annotations) configs = .unchanged := by
  refine Trigger.unchanged_of_desired ?_
  rw [desired?_rewritten, (Trigger.of_remove asked).1]
  exact gone

/-- What a workload asks for, of the configurations of its own namespace. -/
def asks (w : Workload) (configs : List Configuration) : Trigger :=
  Trigger.ofWorkload w (configs.filter (Configuration.isIn w.nameSpace))

/-- The call that does what is asked for. -/
inductive Answers : Trigger → Errand → Prop where
  | add (config : Configuration) : Answers (.add config) (.adding config)
  | remove (owner : String) : Answers (.remove owner) .removing

theorem Answers.busy {errand : Errand} (answers : Answers (asks w configs) errand) :
    ¬ errand.IsIdle w := by
  generalize asked : asks w configs = trigger at answers
  cases answers with
  | add config => exact (Trigger.of_add asked).2
  | remove owner =>
    intro idle
    cases (Trigger.of_remove asked).2.symm.trans idle

theorem of_reconcile {r : Rollout} {trace : List (Exchange Request)} {result : Except Failure Next}
    (path : Path (reconcile r w configs).run trace (.done result)) :
    trace = [] ∨ ∃ errand ending, Answers (asks w configs) errand ∧
      Path (errand.run r w).run trace (.done ending) := by
  unfold reconcile at path
  by_cases deleting : w.metadata.deletion.isSome = true
  · rw [if_pos deleting] at path
    exact .inl (Path.of_done path).1
  rw [if_neg deleting] at path
  have called (errand : Errand) (answers : Answers (asks w configs) errand)
      (path : Path (do
        errand.run r w
        return .after r.setting.options.resync : Action Next).run trace (.done result)) :
      ∃ errand ending, Answers (asks w configs) errand ∧
        Path (errand.run r w).run trace (.done ending) := by
    rcases Path.of_bind_ok path with ⟨failure, _, ended⟩ | ⟨_, first, rest, rfl, ran, ended⟩
    · exact ⟨errand, _, answers, ended⟩
    · obtain ⟨rfl, _⟩ := Path.of_done ended
      rw [List.append_nil]
      exact ⟨errand, _, answers, ran⟩
  cases asked : Trigger.ofWorkload w (configs.filter (Configuration.isIn w.nameSpace)) with
  | add config =>
    rw [asked] at path
    exact .inr (called (.adding config) (by rw [asks, asked]; exact .add config) path)
  | remove owner =>
    rw [asked] at path
    exact .inr (called .removing (by rw [asks, asked]; exact .remove owner) path)
  | _ =>
    rw [asked] at path
    exact .inl (Path.of_done path).1

theorem asks_of_bare {v : Workload} (same : v.bare = w.bare) (configs : List Configuration) :
    asks v configs = asks w configs :=
  show asks v.bare configs = asks w.bare configs from same ▸ rfl

/-- What is stored by the call that was asked for asks for nothing any more. -/
theorem asks_of_carries {r : Rollout} {errand : Errand} {old new : Workload}
    (answers : Answers (asks w configs) errand) (same : old.bare = w.bare)
    (carries : Carries (errand.edit r w).apply old new) : asks new configs = .unchanged := by
  rw [← asks_of_bare same] at answers
  obtain ⟨edited, version, generation, status, applied, rfl⟩ := carries
  obtain ⟨pod, _, rfl⟩ := Sidecar.Edit.of_apply_ok applied
  have written : asks ((((errand.edit r w).outcome old pod)).stamped version generation status) configs =
    asks ((errand.edit r w).outcome old pod) configs := rfl
  rw [written, asks]
  generalize asked : asks old configs = trigger at answers
  cases answers with
  | add config => exact unchanged_of_added asked (Sidecar.get?_owner_added _ _ _)
  | remove owner => exact unchanged_of_removed asked (Sidecar.get?_owner_removed _)

section

variable {kind : WorkloadKind} {nameSpace name : String} {s t u : Register kind nameSpace name}
  {r : Rollout} {trace : List (Exchange Request)} {result : Except Failure Next}

/-- Reconciliations one after the other, each of the workload as it is stored then, which nobody else
edits. -/
inductive Reconciled (r : Rollout) (configs : List Configuration) :
    Register kind nameSpace name → Register kind nameSpace name → Prop where
  | start (s : Register kind nameSpace name) : Reconciled r configs s s
  | next {s t u : Register kind nameSpace name} {w : Workload} {trace : List (Exchange Request)}
      {result : Except Failure Next} : Reconciled r configs s t → t.stored = some w →
      Path (reconcile r w configs).run trace (.done result) →
      Along (Register.aloneTerms kind nameSpace name) trace t u → Reconciled r configs s u

/-- Nothing has been replaced so far, or what is stored instead asks for nothing. -/
def Settling (w : Workload) (configs : List Configuration) (s : Register kind nameSpace name) : Prop :=
  (s.replaced = [] ∧ s.stored.map (·.bare) = some w.bare) ∨
    ∃ old new, s.replaced = [(old, new)] ∧ s.stored.map (·.bare) = some new.bare ∧
      asks new configs = .unchanged

/-- A workload that asks for nothing is left alone. -/
theorem kept_of_unchanged (asked : asks w configs = .unchanged)
    (path : Path (reconcile r w configs).run trace (.done result))
    (along : Along (Register.aloneTerms kind nameSpace name) trace s t) :
    t.replaced = s.replaced ∧ t.stored.map (·.bare) = s.stored.map (·.bare) := by
  rcases of_reconcile path with rfl | ⟨errand, _, answers, _⟩
  · exact ⟨along.1.2, along.2⟩
  · rw [asked] at answers
    cases answers

theorem Settling.reconcile {given : Workload} (settling : Settling w configs t)
    (stored : t.stored = some given) (path : Path (reconcile r given configs).run trace (.done result))
    (along : Along (Register.aloneTerms kind nameSpace name) trace t u) : Settling w configs u := by
  rcases settling with ⟨none, same⟩ | ⟨old, new, one, same, asked⟩
  · rw [stored] at same
    have same : given.bare = w.bare := Option.some.inj same
    rcases of_reconcile path with rfl | ⟨errand, ending, answers, ran⟩
    · refine .inl ⟨along.1.2.trans none, along.2.trans ?_⟩
      rw [stored]
      exact congrArg some same
    -- What the call replaces is what it was given, as nobody else edits the workload meanwhile.
    obtain ⟨part, grown, tracks⟩ := Register.tracks_of_alone along
    cases comes_of_run answers.busy ran (t.mem_of_stored stored) (Register.along_of_alone along) with
    | failed kept =>
      obtain rfl := List.append_right_eq_self.mp (grown.symm.trans kept)
      cases tracks with
      | kept unedited =>
        refine .inl ⟨kept.trans none, unedited.trans ?_⟩
        rw [stored]
        exact congrArg some same
    | @replaced old new _ carries added _ =>
      obtain rfl := List.append_cancel_left (grown.symm.trans added)
      cases tracks with
      | replaced before tracks =>
        rw [stored] at before
        cases tracks with
        | kept unedited =>
          have before : old.bare = given.bare := (Option.some.inj before).symm
          refine .inr ⟨old, new, by rw [added, none, List.nil_append], unedited, ?_⟩
          exact asks_of_carries answers before carries
  · rw [stored] at same
    have asked := (asks_of_bare (Option.some.inj same) configs).trans asked
    obtain ⟨kept, unedited⟩ := kept_of_unchanged asked path along
    refine .inr ⟨old, new, kept.trans one, unedited.trans ?_, ?_⟩
    · rw [stored]
      exact same
    · rwa [← asks_of_bare (Option.some.inj same)]

theorem Reconciled.settling (reconciled : Reconciled r configs s t) (stored : s.stored = some w)
    (fresh : s.replaced = []) : Settling w configs t := by
  induction reconciled with
  | start => exact .inl ⟨fresh, by rw [stored]; rfl⟩
  | next _ given path along ih => exact ih.reconcile given path along

end

/-- The edit that a workload asks for is the last one: with it the workload asks for nothing any more,
whatever the container and its tag are. So however often it is reconciled, one edit is made at most,
as long as nobody else edits it. -/
theorem settles_once {pod : PodSpec} (template : w.podSpec? = some pod) (configs : List Configuration) :
    (∀ config, Trigger.ofWorkload w configs = .add config → ∀ container tag, ∃ edited,
      Sidecar.add w config container tag = .ok edited ∧
        Trigger.ofWorkload edited configs = .unchanged) ∧
    (∀ owner, Trigger.ofWorkload w configs = .remove owner → ∃ edited,
      Sidecar.remove w = .ok edited ∧ Trigger.ofWorkload edited configs = .unchanged) ∧
    ∀ {kind : WorkloadKind} {nameSpace name : String} {s t : Register kind nameSpace name} {r : Rollout},
      s.stored = some w → s.replaced = [] → Reconciled r configs s t → t.replaced.length ≤ 1 := by
  refine ⟨fun config asked container tag => ?_, fun owner asked => ?_, ?_⟩
  · obtain ⟨other, added⟩ := Sidecar.add_eq template config container tag
    exact ⟨_, added, unchanged_of_added asked (Sidecar.get?_owner_added _ _ _)⟩
  · exact ⟨_, Sidecar.Edit.apply_eq template .remove,
      unchanged_of_removed asked (Sidecar.get?_owner_removed _)⟩
  · intro kind nameSpace name s t r stored fresh reconciled
    rcases reconciled.settling stored fresh with ⟨none, _⟩ | ⟨old, new, one, _⟩
    · simp [none]
    · simp [one]

namespace Once

open Stuck Raced Stale

def targeting : Configuration :=
  { daily with spec := { daily.spec with target := some { kind := "ReplicaSet", name := "web" } } }

end Once

open Once Stuck Raced Stale in
/-- The sidecar is put in by the first reconciliation, and the second one leaves it alone. -/
theorem settles_once_injected :
    Trigger.ofWorkload given [targeting] = .add targeting ∧
    (∃ edited, Sidecar.add given targeting container "edge" = .ok edited ∧
      Trigger.ofWorkload edited [targeting] = .unchanged) ∧
    Reconciled rollout [targeting] start between ∧ between.replaced.length ≤ 1 := by
  have asked : Trigger.ofWorkload given [targeting] = .add targeting := rfl
  have once := follow_path answers 20 (reconcile rollout given [targeting]).run 0
  have before : Along (Register.aloneTerms .replicaSet "apps" "web")
      (follow answers 20 (reconcile rollout given [targeting]).run 0).1 start between := by
    exact .next ⟨rfl, trivial⟩ (.next ⟨.inr (.swapped rfl rfl rfl rfl rfl), trivial⟩
      (.next ⟨rfl, trivial⟩ (.next ⟨rfl, trivial⟩ (.next ⟨⟨rfl, fun _ => .inl rfl⟩, trivial⟩
        (.next ⟨rfl, trivial⟩ (.next ⟨rfl, trivial⟩ ⟨⟨List.prefix_rfl, rfl⟩, rfl⟩))))))
  have twice := follow_path answers 20 (reconcile rollout Stale.second [targeting]).run 1
  have reconciled : Reconciled rollout [targeting] start between :=
    .next (.next (.start start) rfl once before) rfl twice ⟨⟨List.prefix_rfl, rfl⟩, rfl⟩
  have settled := settles_once (show given.podSpec? = some _ from rfl) [targeting]
  exact ⟨asked, settled.1 targeting asked container "edge", reconciled,
    settled.2.2 rfl rfl reconciled⟩

end Watch

end ClusterBackup
