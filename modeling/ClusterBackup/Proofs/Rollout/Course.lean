import ClusterBackup.Proofs.Program.Footprint
import ClusterBackup.Proofs.Retry.Polls
import ClusterBackup.Proofs.Rollout.Attempts

/-! The course of a call that has something to do.

The secret is asked for, the workload is edited, its pods are deleted where it does not replace
them, and it is polled until it has rolled out. How this has ended is told. -/

set_option autoImplicit false

namespace ClusterBackup.Rollout

open Cluster Program

def Notice.event (notice : Notice) (object : Cluster.Reference) : Except Failure Unit → Event
  | .ok () =>
    { object, warning := false, reason := notice.done, action := notice.action
      note := some notice.doneNote }
  | .error failure =>
    { object, warning := true, reason := notice.failed, action := notice.action
      note := some (notice.failedNote ++ failure.message) }

namespace Errand

def wanted : Errand → Bool
  | .adding _ => true
  | .removing => false

def notice (w : Workload) : Errand → Notice
  | .adding config => .adding config
  | .removing => .removing ((w.annotation? Sidecar.ownerAnnotation).getD "")

def complete (r : Rollout) (updated : Workload) (errand : Errand) : Action Unit := do
  restartPods updated
  r.await updated errand.wanted

end Errand

/-- What a call asks for before it edits the workload. -/
inductive Admitted (w : Workload) : Errand → List (Exchange Request) → Except Failure Unit → Prop where
  | unnamed {config : Configuration} : config.spec.backend.secretName = "" →
      Admitted w (.adding config) [] (.error (.missingSecret w.nameSpace ""))
  | unread {config : Configuration} {failure : Failure} : config.spec.backend.secretName ≠ "" →
      Admitted w (.adding config)
        [⟨.secret w.nameSpace config.spec.backend.secretName, .error failure⟩] (.error failure)
  | absent {config : Configuration} : config.spec.backend.secretName ≠ "" →
      Admitted w (.adding config) [⟨.secret w.nameSpace config.spec.backend.secretName, .ok none⟩]
        (.error (.missingSecret w.nameSpace config.spec.backend.secretName))
  | found {config : Configuration} {secret : Secret} : config.spec.backend.secretName ≠ "" →
      Admitted w (.adding config)
        [⟨.secret w.nameSpace config.spec.backend.secretName, .ok (some secret)⟩] (.ok ())
  | removing : Admitted w .removing [] (.ok ())

/-- What a call does before it tells how that has ended. -/
inductive Worked (r : Rollout) (w : Workload) (errand : Errand) :
    List (Exchange Request) → Except Failure Unit → Prop where
  | barred {trace : List (Exchange Request)} {failure : Failure} :
      Admitted w errand trace (.error failure) → Worked r w errand trace (.error failure)
  | unedited {first second : List (Exchange Request)} {failure : Failure} :
      Admitted w errand first (.ok ()) →
      Path (errand.patch r w).run second (.done (.error failure)) →
      Worked r w errand (first ++ second) (.error failure)
  | edited {first second third : List (Exchange Request)} {updated : Workload}
      {result : Except Failure Unit} :
      Admitted w errand first (.ok ()) →
      Path (errand.patch r w).run second (.done (.ok updated)) →
      Path (errand.complete r updated).run third (.done result) →
      Worked r w errand (first ++ (second ++ third)) result

variable {r : Rollout} {w : Workload} {errand : Errand} {trace first : List (Exchange Request)}
  {result : Except Failure Unit}

theorem Admitted.quiet (admitted : Admitted w errand trace result) : ∀ e ∈ trace, Quiet e.request := by
  cases admitted <;> simp [Quiet]

theorem worked_of_path (admitted : Admitted w errand first (.ok ()))
    (path : Path (do
      let updated ← errand.patch r w
      errand.complete r updated : Action Unit).run trace (.done result)) :
    Worked r w errand (first ++ trace) result := by
  rcases Path.of_bind_ok path with ⟨failure, rfl, ended⟩ | ⟨updated, second, third, rfl, edited, going⟩
  · exact .unedited admitted ended
  · exact .edited admitted edited going

theorem worked_of_add {config : Configuration} (path : Path (r.add w config).run trace (.done result)) :
    Worked r w (.adding config) trace result := by
  rw [add] at path
  by_cases unnamed : config.spec.backend.secretName = ""
  · rw [if_pos unnamed] at path
    obtain ⟨rfl, rfl⟩ := Path.of_done path
    rw [unnamed]
    exact .barred (.unnamed unnamed)
  rw [if_neg unnamed] at path
  rcases Path.of_bind_ok path with ⟨failure, rfl, ended⟩ | ⟨found, first, rest, rfl, asked, going⟩
  · obtain rfl := Action.of_ask ended
    exact .barred (.unread unnamed)
  · obtain rfl := Action.of_ask asked
    cases found with
    | none =>
      obtain ⟨rfl, rfl⟩ := Path.of_done going
      exact .barred (.absent unnamed)
    | some secret => exact worked_of_path (.found unnamed) going

theorem of_publish {notice : Notice} {object : Cluster.Reference} {ending : Except Failure Unit}
    (path : Path (notice.publish object result).run trace (.done ending)) :
    trace = [⟨.publish (notice.event object result), ()⟩] ∧ ending = result := by
  cases result with
  | ok done =>
    obtain ⟨_, rest, rfl, ended⟩ := Action.of_tell_bind path
    obtain ⟨rfl, rfl⟩ := Path.of_done ended
    exact ⟨rfl, rfl⟩
  | error failure =>
    obtain ⟨_, rest, rfl, ended⟩ := Action.of_tell_bind path
    obtain ⟨rfl, rfl⟩ := Path.of_done ended
    exact ⟨rfl, rfl⟩

/-- A call that has something to do has done it, and has told how that has ended. -/
theorem worked_of_run (busy : ¬ errand.IsIdle w)
    (path : Path (errand.run r w).run trace (.done result)) :
    ∃ work, trace = work ++ [⟨.publish ((errand.notice w).event w.reference result), ()⟩] ∧
      Worked r w errand work result := by
  cases errand with
  | adding config =>
    have busy : ¬ w.annotation? Sidecar.ownerAnnotation = some config.name := busy
    rw [Errand.run, ensure, if_neg busy] at path
    obtain ⟨_, work, last, rfl, worked, told⟩ := Action.of_attempt_bind path
    obtain ⟨rfl, rfl⟩ := of_publish told
    exact ⟨work, rfl, worked_of_add worked⟩
  | removing =>
    rw [Errand.run, ensureRemoved] at path
    cases owner : w.annotation? Sidecar.ownerAnnotation with
    | none => exact absurd owner busy
    | some owner' =>
      rw [owner] at path
      obtain ⟨_, work, last, rfl, worked, told⟩ := Action.of_attempt_bind path
      obtain ⟨rfl, rfl⟩ := of_publish told
      refine ⟨work, by rw [Errand.notice, owner, Option.getD_some], ?_⟩
      exact worked_of_path .removing worked

section

variable {allowed : ⦃β : Type⦄ → Request β → Prop}
  (reads : ∀ kind nameSpace name, allowed (.workload kind nameSpace name))
  (sleeps : ∀ time, allowed (.sleep time))
include reads sleeps

theorem within_patch (replaces : ∀ object, allowed (.replaceWorkload object)) (r : Rollout)
    (w : Workload) (errand : Errand) : Within allowed (errand.patch r w).run := by
  have writes (object : Workload) : Within allowed (do
      Action.ask (.replaceWorkload (← Action.ofExcept ((errand.edit r w).apply object))) :
        Action Workload).run := by
    refine .bind_ok ?_ fun edited => .ask (replaces edited)
    cases (errand.edit r w).apply object <;> exact trivial
  have attempts (n : Nat) : Within allowed (attempt w (errand.edit r w).apply n).run := by
    rw [attempt]
    by_cases first : n = 1
    · rw [if_pos first]
      exact writes w
    · rw [if_neg first]
      exact .bind_ok (within_reread reads w) writes
  exact .bind (within_retryConflicts (fun n _ => .bind (attempts n) fun _ => trivial) sleeps)
    fun _ => trivial

theorem within_complete {w : Workload}
    (lists : ∀ text, Names w text → allowed (.pods w.nameSpace text)) (now : allowed .now)
    (deletes : ∀ text, Names w text → allowed (.deletePods w.nameSpace text)) (r : Rollout)
    (errand : Errand) : Within allowed (errand.complete r w).run := by
  refine .bind_ok ?_ fun _ => within_await reads lists now sleeps r errand.wanted
  rw [restartPods]
  by_cases rolls : w.kind.rollsOnTemplateChange = true
  · rw [if_pos rolls]
    exact trivial
  · rw [if_neg rolls]
    cases selects : w.selector? with
    | none => exact trivial
    | some selector =>
      dsimp only
      cases printed : selector.text with
      | error failure => exact trivial
      | ok text => exact .ask (deletes text (names_text selects printed))

end

def Deletes : ⦃β : Type⦄ → Request β → Prop
  | _, .deletePods .. => True
  | _, _ => False

theorem Quiet.not_deletes {β : Type} {request : Request β} (quiet : Quiet request) :
    ¬ Deletes request := by
  cases request <;> first | exact id | exact quiet.elim

theorem of_restartPods (path : Path (restartPods w).run trace (.done (.ok ()))) :
    trace = [] ∧ (w.kind.rollsOnTemplateChange = true ∨ w.selector? = none) ∨
      ∃ selector text, w.kind.rollsOnTemplateChange = false ∧ w.selector? = some selector ∧
        selector.text = .ok text ∧ trace = [⟨.deletePods w.nameSpace text, .ok ()⟩] := by
  rw [restartPods] at path
  by_cases rolls : w.kind.rollsOnTemplateChange = true
  · rw [if_pos rolls] at path
    obtain ⟨rfl, _⟩ := Path.of_done path
    exact .inl ⟨rfl, .inl rolls⟩
  · rw [if_neg rolls] at path
    cases selects : w.selector? with
    | none =>
      rw [selects] at path
      obtain ⟨rfl, _⟩ := Path.of_done path
      exact .inl ⟨rfl, .inr rfl⟩
    | some selector =>
      rw [selects] at path
      rcases Path.of_bind_ok path with ⟨_, impossible, _⟩ | ⟨text, first, last, rfl, printed, asked⟩
      · cases impossible
      · obtain rfl := Action.of_ask asked
        cases named : selector.text with
        | error failure =>
          rw [named] at printed
          cases printed
        | ok name =>
          rw [named] at printed
          obtain ⟨rfl, same⟩ := Path.of_done printed
          cases same
          exact .inr ⟨selector, text, Bool.eq_false_iff.mpr rolls, rfl, named, rfl⟩

theorem restart_of_complete (path : Path (errand.complete r w).run trace (.done (.ok ()))) :
    ∃ restart rest, trace = restart ++ rest ∧ Path (restartPods w).run restart (.done (.ok ())) ∧
      ∀ e ∈ rest, ¬ Deletes e.request := by
  rcases Path.of_bind_ok path with ⟨_, impossible, _⟩ | ⟨_, restart, rest, rfl, restarted, awaited⟩
  · cases impossible
  · exact ⟨restart, rest, rfl, restarted, fun e member =>
      ((quiet_await r w errand.wanted).path awaited e member).not_deletes⟩

/-- The pods are deleted if the workload does not replace them itself and selects them. -/
theorem deletes_of_complete (path : Path (errand.complete r w).run trace (.done (.ok ()))) :
    (∃ e ∈ trace, Deletes e.request) ↔
      w.kind.rollsOnTemplateChange = false ∧ w.selector?.isSome = true := by
  obtain ⟨restart, rest, rfl, restarted, quiet⟩ := restart_of_complete path
  have none : ¬ ∃ e ∈ rest, Deletes e.request := fun ⟨e, member, deletes⟩ => quiet e member deletes
  simp only [List.mem_append, or_and_right, exists_or, none, or_false]
  obtain ⟨rfl, idle⟩ | ⟨selector, text, keeps, selects, _, rfl⟩ := of_restartPods restarted
  · rcases idle with rolls | unselected
    · simp [rolls]
    · simp [unselected]
  · refine iff_of_true ⟨_, List.mem_singleton_self _, trivial⟩ ⟨keeps, ?_⟩
    rw [selects, Option.isSome_some]

end ClusterBackup.Rollout
