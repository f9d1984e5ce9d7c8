import ClusterBackup.Proofs.Rollout.Course
import ClusterBackup.Proofs.Rollout.Replaced
import ClusterBackup.Proofs.Sidecar.Repeated

/-! What calls replace that are made again.

A call tells from the workload that it is given whether there is anything to do. What it edits is
the workload that is stored, and of that it does not ask whether the sidecar is there already. -/

set_option autoImplicit false

namespace ClusterBackup

open Cluster Program

theorem Sidecar.Edit.apply_stamped {edit : Edit} {w edited : Workload}
    (applied : edit.apply w = .ok edited) (version : Option String) (generation : Option Int)
    (status : Option WorkloadStatus) :
    edit.apply (w.stamped version generation status) = .ok (edited.stamped version generation status) := by
  obtain ⟨pod, template, rfl⟩ := of_apply_ok applied
  exact apply_eq (w := w.stamped version generation status) template edit

namespace Rollout

variable {kind : WorkloadKind} {nameSpace name : String} {s t u : Register kind nameSpace name}
  {r : Rollout} {w old new : Workload} {errand : Errand} {trace : List (Exchange Request)}
  {result : Except Failure Unit} {edit : Sidecar.Edit}

/-- What carries an edit already stays as it is, but for what the cluster writes itself. -/
theorem Carries.again {older : Workload} (before : Carries edit.apply older old)
    (carries : Carries edit.apply old new) :
    ∃ version generation status, new = old.stamped version generation status := by
  obtain ⟨made, first, second, third, applied, rfl⟩ := before
  obtain ⟨edited, version, generation, status, again, rfl⟩ := carries
  have same := Sidecar.Edit.apply_stamped (Sidecar.Edit.apply_of_apply applied) first second third
  obtain rfl := Except.ok.inj (again.symm.trans same)
  exact ⟨version, generation, status, rfl⟩

theorem kept_of_idle (idle : errand.IsIdle w) (path : Path (errand.run r w).run trace (.done result))
    (along : Along (Register.terms kind nameSpace name) trace s t) :
    trace = [] ∧ result = .ok () ∧ t.replaced = s.replaced := by
  rw [run_of_idle idle] at path
  obtain ⟨rfl, rfl⟩ := Path.of_done path
  exact ⟨rfl, rfl, along.2⟩

/-- What a call has come to that has something to do. -/
inductive Comes (edit : Workload → Except Failure Workload) (trace : List (Exchange Request))
    (before after : List (Workload × Workload)) : Except Failure Unit → Prop where
  /-- It has failed without a replacement. -/
  | failed {failure : Failure} : after = before → Comes edit trace before after (.error failure)
  /-- It has replaced one version, and has deleted the pods before it succeeds. -/
  | replaced {old new : Workload} {result : Except Failure Unit} : Carries edit old new →
      after = before ++ [(old, new)] →
      (result = .ok () → ((∃ e ∈ trace, Deletes e.request) ↔
        new.kind.rollsOnTemplateChange = false ∧ new.selector?.isSome = true)) →
      Comes edit trace before after result

theorem Worked.comes (worked : Worked r w errand trace result) (copy : w ∈ s.versions)
    (along : Along (Register.terms kind nameSpace name) trace s t) :
    Comes (errand.edit r w).apply trace s.replaced t.replaced result := by
  have admission {first : List (Exchange Request)} {result : Except Failure Unit}
      {s t : Register kind nameSpace name} (admitted : Admitted w errand first result)
      (along : Along (Register.terms kind nameSpace name) first s t) : t.replaced = s.replaced :=
    Register.along_kept (fun e member => (admitted.quiet e member).not_rewrites) along
  cases worked with
  | barred admitted => exact .failed (admission admitted along)
  | unedited admitted patched =>
    obtain ⟨between, asked, edited⟩ := along.split
    obtain ⟨effect, _⟩ := edits_effect (edits_of_path patched) (plain_edit (errand.edit r w))
      ((Register.along_grows asked).subset copy) edited
    exact .failed ((show t.replaced = between.replaced from effect).trans (admission admitted asked))
  | @edited first second third updated _ admitted patched followed =>
    obtain ⟨between, asked, rest⟩ := along.split
    obtain ⟨after, edited, rest⟩ := rest.split
    obtain ⟨⟨old, carries, same⟩, _⟩ := edits_effect (edits_of_path patched)
      (plain_edit (errand.edit r w)) ((Register.along_grows asked).subset copy) edited
    have following : Within (fun _ r => ¬ Rewrites r) (errand.complete r updated).run :=
      within_complete (fun _ _ _ => id) (fun _ => id) (fun _ _ => id) id (fun _ _ => id) r errand
    have kept := Register.along_kept (following.path followed) rest
    refine .replaced carries (by rw [kept, same, admission admitted asked]) ?_
    -- Pods are deleted by what follows the edit, and by nothing before it.
    rintro rfl
    have patching : Within (fun _ r => ¬ Deletes r) (errand.patch r w).run :=
      within_patch (fun _ _ _ => id) (fun _ => id) (fun _ => id) r w errand
    have none : ¬ ∃ e ∈ second, Deletes e.request := fun ⟨e, member, deletes⟩ =>
      patching.path patched e member deletes
    have quiet : ¬ ∃ e ∈ first, Deletes e.request := fun ⟨e, member, deletes⟩ =>
      (admitted.quiet e member).not_deletes deletes
    simp only [List.mem_append, or_and_right, exists_or, none, quiet, false_or]
    exact deletes_of_complete followed

theorem comes_of_run (busy : ¬ errand.IsIdle w)
    (path : Path (errand.run r w).run trace (.done result)) (copy : w ∈ s.versions)
    (along : Along (Register.terms kind nameSpace name) trace s t) :
    Comes (errand.edit r w).apply trace s.replaced t.replaced result := by
  obtain ⟨work, rfl, worked⟩ := worked_of_run busy path
  obtain ⟨between, along, told⟩ := along.split
  have kept : t.replaced = between.replaced :=
    Register.along_kept (fun e member => (List.mem_singleton.mp member) ▸ id) told
  cases worked.comes copy along with
  | failed same => exact .failed (kept.trans same)
  | replaced carries same deletes =>
    refine .replaced carries (kept.trans same) fun ended => ?_
    rw [← deletes ended]
    simp only [List.mem_append, or_and_right, exists_or]
    refine or_iff_left ?_
    rintro ⟨e, member, deletes⟩
    rw [List.mem_singleton] at member
    exact (member ▸ deletes : Deletes (Request.publish _))

/-- A second call with the same workload does nothing just if that workload has the annotation.
Else it replaces what is stored once more, by the same if nobody else has written since the first
call, and it deletes the pods once more. -/
theorem ensure_twice {config : Configuration} {first second : List (Exchange Request)}
    (copy : w ∈ s.versions) (once : Path (r.ensure w config).run first (.done (.ok ())))
    (before : Along (Register.terms kind nameSpace name) first s t)
    (twice : Path (r.ensure w config).run second (.done (.ok ())))
    (after : Along (Register.terms kind nameSpace name) second t u) :
    ((u.replaced = t.replaced ∧ ∀ e ∈ second, ¬ Deletes e.request) ↔
      w.annotation? Sidecar.ownerAnnotation = some config.name) ∧
    (w.annotation? Sidecar.ownerAnnotation ≠ some config.name → ∃ older old newer new,
      t.replaced = s.replaced ++ [(older, old)] ∧ u.replaced = t.replaced ++ [(newer, new)] ∧
      Carries ((Errand.adding config).edit r w).apply newer new ∧
      (newer = old → ∃ version generation status, new = old.stamped version generation status) ∧
      ((∃ e ∈ second, Deletes e.request) ↔
        new.kind.rollsOnTemplateChange = false ∧ new.selector?.isSome = true)) := by
  have once : Path ((Errand.adding config).run r w).run first (.done (.ok ())) := once
  have twice : Path ((Errand.adding config).run r w).run second (.done (.ok ())) := twice
  -- Both calls ask the copy that they are given, so either both have something to do or neither.
  by_cases idle : (Errand.adding config).IsIdle w
  · obtain ⟨rfl, _, same⟩ := kept_of_idle idle twice after
    exact ⟨iff_of_true ⟨same, fun _ member => absurd member List.not_mem_nil⟩ idle,
      fun busy => absurd idle busy⟩
  · cases comes_of_run idle twice ((Register.along_grows before).subset copy) after with
    | @replaced newer new _ carries same deletes =>
      cases comes_of_run idle once copy before with
      | @replaced older old _ first earlier _ =>
        refine ⟨iff_of_false (fun nothing => ?_) idle, fun _ =>
          ⟨older, old, newer, new, earlier, same, carries, ?_, deletes rfl⟩⟩
        · exact absurd (nothing.1.symm.trans same) (by simp)
        · rintro rfl
          exact first.again carries

namespace Stale

open Stuck Raced

def ready : WorkloadStatus := { ready := some 1 }

def stored (version : String) (w : Workload) : Workload :=
  ((((Errand.adding daily).edit rollout given).apply w).toOption.getD w).stamped (some version) none
    (some ready)

def second : Workload := stored "2" given

def third : Workload := stored "3" second

def register (versions : List Workload) (replaced : List (Workload × Workload))
    (here : ∀ v ∈ versions, IsAt v .replicaSet "apps" "web")
    (distinct : (versions.map (·.metadata.resourceVersion)).Nodup) : Register .replicaSet "apps" "web" :=
  ⟨versions.getLast?, versions, replaced, here, distinct, fun _ => id⟩

theorem isAt_given : IsAt given .replicaSet "apps" "web" := ⟨rfl, rfl, rfl⟩

theorem isAt_second : IsAt second .replicaSet "apps" "web" := ⟨rfl, rfl, rfl⟩

theorem isAt_third : IsAt third .replicaSet "apps" "web" := ⟨rfl, rfl, rfl⟩

def start : Register .replicaSet "apps" "web" :=
  register [given] [] (by simpa using isAt_given) (by decide)

def between : Register .replicaSet "apps" "web" :=
  register [given, second] [(given, second)] (by simpa using ⟨isAt_given, isAt_second⟩) (by decide)

def finish : Register .replicaSet "apps" "web" :=
  register [given, second, third] [(given, second), (second, third)]
    (by simpa using ⟨isAt_given, isAt_second, isAt_third⟩) (by decide)

def carrier : Pod :=
  { metadata := Metadata.named "apps" "web-x"
    spec := second.podSpec?
    status := some { phase := some "Running" } }

/-- The first write of the second call is in conflict. -/
def answers {β : Type} : Request β → Nat → β × Nat
  | .secret .., n => (.ok (some keys), n)
  | .replaceWorkload _, 0 => (.ok second, 1)
  | .replaceWorkload _, 1 => (.error (.conflict "stale"), 2)
  | .replaceWorkload _, n + 2 => (.ok third, n + 3)
  | .workload .., n => (.ok (some (if n < 3 then second else third)), n)
  | .pods .., n => (.ok [carrier], n)
  | .deletePods .., n => (.ok (), n)
  | r, n => (Simulation.Store.quiet r, n)

end Stale

open Stale Stuck Raced in
/-- The second call finds the sidecar in what it reads anew, replaces it by the same, and deletes the
pods once more. -/
theorem ensure_twice_stale : ∃ first second,
    Path (rollout.ensure given daily).run first (.done (.ok ())) ∧
    Along (Register.terms .replicaSet "apps" "web") first start between ∧
    Path (rollout.ensure given daily).run second (.done (.ok ())) ∧
    Along (Register.terms .replicaSet "apps" "web") second between finish ∧
    finish.replaced = between.replaced ++ [(Stale.second, third)] ∧
    (∃ version generation status, third = Stale.second.stamped version generation status) ∧
    ∃ e ∈ second, Deletes e.request := by
  have once := follow_path answers 20 (rollout.ensure given daily).run 0
  have twice := follow_path answers 20 (rollout.ensure given daily).run 1
  have before : Along (Register.terms .replicaSet "apps" "web")
      (follow answers 20 (rollout.ensure given daily).run 0).1 start between := by
    exact .next ⟨rfl, trivial⟩ (.next ⟨.inr (.swapped rfl rfl rfl rfl rfl), trivial⟩
      (.next ⟨rfl, trivial⟩ (.next ⟨rfl, trivial⟩ (.next ⟨⟨rfl, fun _ => .inl rfl⟩, trivial⟩
        (.next ⟨rfl, trivial⟩ (.next ⟨rfl, trivial⟩ ⟨List.prefix_rfl, rfl⟩))))))
  have after : Along (Register.terms .replicaSet "apps" "web")
      (follow answers 20 (rollout.ensure given daily).run 1).1 between finish := by
    exact .next ⟨rfl, trivial⟩ (.next ⟨.inl ⟨rfl, fun _ => ⟨_, rfl, rfl⟩⟩, trivial⟩
      (.next ⟨rfl, trivial⟩ (.next ⟨⟨rfl, fun _ => .inl rfl⟩, trivial⟩
        (.next ⟨.inr (.swapped rfl rfl rfl rfl rfl), trivial⟩ (.next ⟨rfl, trivial⟩
          (.next ⟨rfl, trivial⟩ (.next ⟨⟨rfl, fun _ => .inl rfl⟩, trivial⟩ (.next ⟨rfl, trivial⟩
            (.next ⟨rfl, trivial⟩ ⟨List.prefix_rfl, rfl⟩)))))))))
  obtain ⟨older, old, newer, new, first, last, _, same, deletes⟩ := (ensure_twice
    (show given ∈ start.versions from List.mem_singleton_self _) once before twice after).2 nofun
  obtain ⟨rfl, rfl⟩ := Prod.mk.inj (List.singleton_inj.mp first)
  have appended : between.replaced ++ [(Stale.second, third)] = between.replaced ++ [(newer, new)] := last
  obtain ⟨rfl, rfl⟩ := Prod.mk.inj (List.singleton_inj.mp (List.append_cancel_left appended))
  exact ⟨_, _, once, before, twice, after, last, same rfl, deletes.mpr ⟨rfl, rfl⟩⟩

end Rollout

end ClusterBackup

/-! ### A workload that nobody else edits

The cluster goes on to write versions of its own, with another generation and another status. Apart
from these the workload is what the last replacement has made of it. -/

namespace ClusterBackup

open Cluster Program

/-- The workload without what the cluster writes into it itself. -/
def Cluster.Workload.bare (w : Workload) : Workload := w.stamped none none none

@[simp] theorem Cluster.Workload.bare_stamped (w : Workload) (version : Option String)
    (generation : Option Int) (status : Option WorkloadStatus) :
    (w.stamped version generation status).bare = w.bare := rfl

namespace Rollout

/-- One replacement after the other, between two states of what is stored. -/
inductive Tracks : Option Workload → List (Workload × Workload) → Option Workload → Prop where
  | kept {first last : Option Workload} : last.map (·.bare) = first.map (·.bare) →
      Tracks first [] last
  | replaced {first last : Option Workload} {old new : Workload} {rest : List (Workload × Workload)} :
      first.map (·.bare) = some old.bare → Tracks (some new) rest last →
      Tracks first ((old, new) :: rest) last

theorem Tracks.of_bare {first other last : Option Workload} {part : List (Workload × Workload)}
    (tracks : Tracks first part last) (same : first.map (·.bare) = other.map (·.bare)) :
    Tracks other part last := by
  cases tracks with
  | kept kept => exact .kept (kept.trans same)
  | replaced old rest => exact .replaced (same ▸ old) rest

namespace Register

variable {kind : WorkloadKind} {nameSpace name : String} {s t : Register kind nameSpace name}
  {trace : List (Exchange Request)}

variable (kind nameSpace name) in
/-- Nobody edits the workload besides the call. -/
def aloneTerms : Terms Request (Register kind nameSpace name) where
  world := Replies
  rely s t := (s.versions <+: t.versions ∧ t.replaced = s.replaced) ∧
    t.stored.map (·.bare) = s.stored.map (·.bare)
  guarantee _ _ _ := True
  rely_refl _ := ⟨⟨List.prefix_rfl, rfl⟩, rfl⟩
  rely_trans first second :=
    ⟨⟨first.1.1.trans second.1.1, second.1.2.trans first.1.2⟩, second.2.trans first.2⟩

theorem along_of_alone (along : Along (aloneTerms kind nameSpace name) trace s t) :
    Along (terms kind nameSpace name) trace s t := by
  have rely (s t : Register kind nameSpace name) (later : (aloneTerms kind nameSpace name).rely s t) :
      (terms kind nameSpace name).rely s t := later.1
  exact along.mono rely fun _ _ _ => id

theorem Replies.kept_or_accepts {e : Exchange Request} (replies : s.Replies e t) :
    t = s ∨ ∃ object reply, s.Accepts object reply t := by
  obtain ⟨request, reply⟩ := e
  cases request with
  | workload => exact .inl replies.1
  | replaceWorkload object =>
    exact replies.imp And.left fun accepts => ⟨object, reply, accepts⟩
  | _ => exact .inl replies

/-- What is stored in the end is what the replacements have made of what was stored before. -/
theorem tracks_of_alone (along : Along (aloneTerms kind nameSpace name) trace s t) :
    ∃ part, t.replaced = s.replaced ++ part ∧ Tracks s.stored part t.stored := by
  induction trace generalizing s with
  | nil => exact ⟨[], by rw [List.append_nil]; exact along.1.2, .kept along.2⟩
  | cons e rest ih =>
    obtain ⟨before, after, ⟨⟨_, kept⟩, same⟩, ⟨replies, _⟩, rest⟩ := along
    obtain ⟨part, grown, tracks⟩ := ih rest
    rcases Replies.kept_or_accepts replies with rfl | ⟨object, reply, accepts⟩
    · exact ⟨part, by rw [grown, kept], tracks.of_bare same⟩
    · cases accepts with
      | @swapped old version generation status _ stored _ now _ replaced =>
        refine ⟨_ :: part, ?_, .replaced (by rw [← same, stored]; rfl) (now ▸ tracks)⟩
        rw [grown, replaced, kept, List.append_assoc]
        rfl

end Register

end Rollout

end ClusterBackup
