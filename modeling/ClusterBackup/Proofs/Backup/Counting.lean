import ClusterBackup.Proofs.Backup.Calls
import ClusterBackup.Proofs.Status.Attempts
import ClusterBackup.Proofs.Status.Reports
import ClusterBackup.Proofs.Status.Watched

/-! Which runs are counted on their configuration.

A run is recorded on its configuration first and on its repository then. When only the second
write fails, the run fails although it has been counted. -/

set_option autoImplicit false

namespace ClusterBackup

open Program Simulation

/-- The configuration counts one run more, of this time, and is otherwise the same. -/
structure Configuration.Counted (time : Instant) (old new : Configuration) : Prop where
  runs : new.runs = old.runs + 1
  last : new.status.bind (·.last) = some time
  first : new.firstRun = (old.firstRun <|> some time)
  spec : new.spec = old.spec

namespace Backup

variable {setting : Setting} {host : Host} {nameSpace name : String} {time : Instant}
  {trace : List (Exchange Request)} {result : Except Failure Unit}

/-- The run was recorded on its configuration, and could not be recorded on its repository. -/
def FailsLate (setting : Setting) (nameSpace name : String) (time : Instant)
    (trace : List (Exchange Request)) (failure : Failure) : Prop :=
  ∃ earlier counting recording took repository removed written,
    trace = earlier ++ (counting ++ recording) ∧
    Path (Status.recordRun setting.policy nameSpace name time took).run counting
      (.done (.ok (some written))) ∧
    Path (Status.recordRepositoryRun setting.policy nameSpace repository time took removed).run
      recording (.done (.error failure))

/-- A run that succeeds counts if its configuration is not paused, and was not gone when it was
read. A run that fails counts if it fails late. -/
def Counts (setting : Setting) (nameSpace name : String) (time : Instant)
    (trace : List (Exchange Request)) : Except Failure Unit → Prop
  | .ok () =>
    (∃ config rest, config.spec.paused = false ∧
      trace = ⟨.get .configuration nameSpace name, .ok (some config)⟩ :: rest) ∧
    ⟨.get .configuration nameSpace name, .ok none⟩ ∉ trace
  | .error failure => FailsLate setting nameSpace name time trace failure

section

variable {policy : RetryPolicy} {took : Duration}
  {found : Except Failure (Option Configuration)}
  {changes : List (Option Configuration × Option Configuration)}
  {s t : Watched .configuration}

theorem of_recordRun
    (path : Path (Status.recordRun policy nameSpace name time took).run trace (.done found)) :
    ∃ flag, Path (((Report.run time took).update policy).code nameSpace name) trace
      (.done (found, flag)) :=
  Report.path_update path

theorem gone_iff_recordRun
    (path : Path (Status.recordRun policy nameSpace name time took).run trace (.done found)) :
    ⟨.get .configuration nameSpace name, .ok none⟩ ∈ trace ↔ found = .ok none := by
  obtain ⟨flag, updating⟩ := of_recordRun path
  exact (Update.account updating).gone

theorem outcome_of_recordRun
    (path : Path (Status.recordRun policy nameSpace name time took).run trace (.done found))
    (along : Along (Watched.terms .configuration nameSpace name) trace s t)
    (kept : Watched.Kept changes s) :
    ∃ flag, Watched.Outcome ((Report.run time took).update policy) changes (found, flag) t := by
  obtain ⟨flag, updating⟩ := of_recordRun path
  have ensures : Ensures (Watched.terms .configuration nameSpace name)
      (((Report.run time took).update policy).code nameSpace name)
      (Watched.Outcome ((Report.run time took).update policy) changes) s :=
    Watched.ensures_update ((Report.run time took).regular policy) kept
  exact ⟨flag, ensures.along updating along t (Terms.rely_refl _ t)⟩

theorem counted_of_recordRun {written : Configuration}
    (path : Path (Status.recordRun policy nameSpace name time took).run trace
      (.done (.ok (some written))))
    (along : Along (Watched.terms .configuration nameSpace name) trace s t)
    (kept : Watched.Kept changes s) :
    ∃ old new, Watched.Kept (changes ++ [(some old, some new)]) t ∧
      Configuration.Counted time old new := by
  obtain ⟨flag, outcome⟩ := outcome_of_recordRun path along kept
  cases flag with
  | false =>
    obtain ⟨⟨old, idle⟩, _⟩ := outcome
    cases idle
  | true =>
    obtain ⟨old, _, content, changed⟩ := outcome
    refine ⟨old, written, changed, ?_, ?_, ?_, ?_⟩
    · rw [content, Resource.runs_stamped]
      exact (Report.run time took).runs_change old
    · rw [content]
      rfl
    · rw [content, Resource.firstRun_stamped]
      exact (Report.run time took).firstRun_change old
    · rw [content]
      rfl

theorem kept_of_recordRun
    (path : Path (Status.recordRun policy nameSpace name time took).run trace (.done found))
    (along : Along (Watched.terms .configuration nameSpace name) trace s t)
    (kept : Watched.Kept changes s) (unwritten : ∀ written, found ≠ .ok (some written)) :
    Watched.Kept changes t := by
  obtain ⟨flag, outcome⟩ := outcome_of_recordRun path along kept
  rcases found with failure | _ | written
  · exact outcome
  · exact outcome
  · exact absurd rfl (unwritten written)

/-- When the record has not failed and nothing else writes the configuration, the run is counted
exactly if the configuration was there. -/
theorem changes_of_recordRun {written : Option Configuration} {rest : List (Exchange Request)}
    (path : Path (Status.recordRun policy nameSpace name time took).run trace (.done (.ok written)))
    (along : Along (Watched.terms .configuration nameSpace name) (trace ++ rest) s t)
    (kept : Watched.Kept [] s) (apart : Apart (.writing .configuration) rest) :
    match written with
    | none => t.changes = []
    | some _ => ∃ old new, t.changes = [(some old, some new)] ∧
        Configuration.Counted time old new := by
  obtain ⟨u, during, after⟩ := along.split
  cases written with
  | none => exact ((kept_of_recordRun path during kept (by simp)).along after apart).changes
  | some written =>
    obtain ⟨old, new, changed, one⟩ := counted_of_recordRun path during kept
    exact ⟨old, new, (changed.along after apart).changes, one⟩

end

section

variable {config : Configuration} {secret : Cluster.Secret}

theorem apart_of_prepared {reach : Reach} {prepared : Except Failure (Tool × String)}
    (course : Course.Prepared setting host nameSpace config secret trace prepared)
    (missing : reach ∉ [.reading .repository, .writing .repository, .files, .tool]) :
    Apart reach trace := by
  have setUp {setup : List (Exchange Request)} {done : Except Failure (Environment × String)}
      (path : Path (setUp setting host nameSpace config secret).run setup (.done done)) :
      Apart reach setup :=
    Touches.apart (setUp_touches ..) path fun member => missing (by simp_all)
  have ensured {tool : Tool} {asking : List (Exchange Request)} {made : Except Failure Bool}
      (path : Path tool.ensure.run asking (.done made)) : Apart reach asking :=
    Touches.apart tool.ensure_touches path fun member => missing (by simp_all)
  cases course with
  | failed broken => exact setUp broken
  | unmade done refused => exact (apart_append ..).mpr ⟨setUp done, ensured refused⟩
  | ready done made => exact (apart_append ..).mpr ⟨setUp done, ensured made⟩

theorem apart_or_concluded_of_secured
    (course : Course.Secured setting host nameSpace name time config secret trace result) :
    (Apart (.writing .configuration) trace ∧ ∃ failure, result = .error failure) ∨
    ∃ earlier closing repository took removed, trace = earlier ++ closing ∧
      Apart (.writing .configuration) earlier ∧ Apart (.reading .configuration) earlier ∧
      Course.Concluded setting host nameSpace name time repository took removed closing result := by
  have grouped {reach : Reach} {tool : Tool} {work : List (Exchange Request)}
      {done : Except Failure (Metrics × Except Failure Int)}
      (path : Path (runGroups host config tool config.spec.groups {} 0).run work (.done done))
      (missing : reach ∉ [.tool, .clock, .events]) : Apart reach work :=
    Touches.apart (runGroups_touches ..) path missing
  have pushed {metrics : Metrics} {pushed : List (Exchange Request)}
      (path : Path (pushMetrics setting host nameSpace name metrics).run pushed (.done (.ok ()))) :
      Apart (.writing .configuration) pushed :=
    Touches.apart (pushMetrics_touches ..) path (by decide)
  cases course with
  | unprepared prepared pushing =>
    refine .inl ⟨?_, _, rfl⟩
    simp [apart_of_prepared prepared, pushed pushing, Request.reach]
  | stopped prepared working pushing =>
    refine .inl ⟨?_, _, rfl⟩
    simp [apart_of_prepared prepared, grouped working, pushed pushing, Request.reach]
  | @worked start now setup work closing _ repository _ removed _ prepared working concluding =>
    refine .inr ⟨⟨.now, start⟩ :: (setup ++ (work ++ [⟨.now, now⟩])), closing, repository, _,
      removed, by simp, ?_, ?_, Course.of_conclude concluding⟩
    · simp [apart_of_prepared prepared, grouped working, Request.reach]
    · simp [apart_of_prepared prepared, grouped working, Request.reach]

end

/-- A run writes no configuration unless it comes to its conclusion. -/
theorem apart_or_concluded
    (path : Path (runOnce setting host nameSpace name time).run trace (.done result)) :
    (Apart (.writing .configuration) trace ∧
      (result = .ok () → ¬ Counts setting nameSpace name time trace result)) ∨
    ∃ config earlier closing repository took removed, config.spec.paused = false ∧
      trace = ⟨.get .configuration nameSpace name, .ok (some config)⟩ :: (earlier ++ closing) ∧
      Apart (.writing .configuration) earlier ∧ Apart (.reading .configuration) earlier ∧
      Course.Concluded setting host nameSpace name time repository took removed closing result := by
  cases Course.of_runOnce path with
  | unread => exact .inl ⟨by simp, nofun⟩
  | absent => exact .inl ⟨by simp, fun _ counts => counts.2 (.head _)⟩
  | @paused config paused =>
    refine .inl ⟨by simp, fun _ counts => ?_⟩
    obtain ⟨⟨other, rest, unpaused, same⟩, _⟩ := counts
    cases same
    rw [paused] at unpaused
    cases unpaused
  | @due config rest _ unpaused course =>
    cases course with
    | invalid | unread | missing =>
      exact .inl ⟨by simp [Request.reach], fun impossible => by cases impossible⟩
    | secured _ course =>
      rcases apart_or_concluded_of_secured course with ⟨apart, failure, rfl⟩ |
        ⟨earlier, closing, repository, took, removed, rfl, unwritten, unread, course⟩
      · exact .inl ⟨by simp [apart, Request.reach], fun impossible => by cases impossible⟩
      · exact .inr ⟨config, _ :: earlier, closing, repository, took, removed, unpaused, rfl,
          by simp [unwritten, Request.reach], by simp [unread, Request.reach], course⟩

section

variable {store : Store} {t : Watched .configuration}

theorem FailsLate.changed {failure : Failure}
    (late : FailsLate setting nameSpace name time trace failure) (numbered : store.IsNumbered)
    (along : Along (Watched.terms .configuration nameSpace name) trace ⟨store, []⟩ t) :
    t.changes ≠ [] := by
  obtain ⟨earlier, counting, recording, took, repository, removed, written, rfl, counted, _⟩ := late
  obtain ⟨u, before, along⟩ := along.split
  obtain ⟨v, during, after⟩ := along.split
  have kept : Watched.Kept u.changes u := ⟨Watched.along_numbered before numbered, rfl⟩
  obtain ⟨old, new, changed, _⟩ := counted_of_recordRun counted during kept
  obtain ⟨more, same⟩ := Watched.along_prefix after
  rw [← same, changed.changes]
  simp

theorem FailsLate.append {failure : Failure} {earlier : List (Exchange Request)}
    (late : FailsLate setting nameSpace name time trace failure) :
    FailsLate setting nameSpace name time (earlier ++ trace) failure := by
  obtain ⟨first, counting, recording, took, repository, removed, written, rfl, paths⟩ := late
  exact ⟨earlier ++ first, counting, recording, took, repository, removed, written,
    by rw [List.append_assoc], paths⟩

theorem counts_of_concluded {repository : String} {took : Duration} {removed : Int}
    {s : Watched .configuration}
    (course : Course.Concluded setting host nameSpace name time repository took removed trace
      result)
    (along : Along (Watched.terms .configuration nameSpace name) trace s t)
    (kept : Watched.Kept [] s) :
    (t.changes = [] ∧
      (result = .ok () → ⟨.get .configuration nameSpace name, .ok none⟩ ∈ trace)) ∨
    ((∃ old new, t.changes = [(some old, some new)] ∧ Configuration.Counted time old new) ∧
      match result with
      | .ok () => ⟨.get .configuration nameSpace name, .ok none⟩ ∉ trace
      | .error failure => FailsLate setting nameSpace name time trace failure) := by
  have later {recording : List (Exchange Request)} {stored : Except Failure (Option Repository)}
      (path : Path (Status.recordRepositoryRun setting.policy nameSpace repository time took
        removed).run recording (.done stored)) {reach : Reach}
      (missing : reach ∉ [.reading .repository, .writing .repository, .clock]) :
      Apart reach recording :=
    Touches.apart (Status.recordRepositoryRun_touches ..) path missing
  cases course with
  | uncounted counting =>
    exact .inl ⟨(kept_of_recordRun counting along kept (by simp)).changes, nofun⟩
  | @unrecorded counting recording found failure counted recorded =>
    -- The configuration was written before the repository could not be.
    have changes := changes_of_recordRun counted along kept (later recorded (by decide))
    cases found with
    | none => exact .inl ⟨changes, nofun⟩
    | some written =>
      exact .inr ⟨changes, [], counting, recording, took, repository, removed, written, rfl,
        counted, recorded⟩
  | @recorded counting recording pushed found stored metrics counted recorded pushing =>
    have apart {reach : Reach} (missing : reach ∉ [.reading .repository, .writing .repository,
        .clock]) (silent : reach ∉ [.metrics]) : Apart reach (recording ++ pushed) :=
      (apart_append ..).mpr
        ⟨later recorded missing, Touches.apart (pushMetrics_touches ..) pushing silent⟩
    have changes := changes_of_recordRun counted along kept (apart (by decide) (by decide))
    have unread : Apart (.reading .configuration) (recording ++ pushed) :=
      apart (by decide) (by decide)
    have gone := gone_iff_recordRun counted
    cases found with
    | none => exact .inl ⟨changes, fun _ => List.mem_append_left _ (gone.mpr rfl)⟩
    | some written =>
      refine .inr ⟨changes, fun member => ?_⟩
      rcases List.mem_append.mp member with member | member
      · exact Option.some_ne_none written (Except.ok.inj (gone.mp member))
      · exact unread _ member rfl

/-- Whatever the store replies and others write to it, a run changes its configuration at most
once. It counts itself if it succeeds, unless the configuration is paused or gone, and also if it
fails late; a run that fails in another way leaves the configuration as it is. -/
theorem runOnce_counts (numbered : store.IsNumbered)
    (path : Path (runOnce setting host nameSpace name time).run trace (.done result))
    (along : Along (Watched.terms .configuration nameSpace name) trace ⟨store, []⟩ t) :
    (Counts setting nameSpace name time trace result ∧
      ∃ old new, t.changes = [(some old, some new)] ∧ Configuration.Counted time old new) ∨
    (¬ Counts setting nameSpace name time trace result ∧ t.changes = []) := by
  have start : Watched.Kept [] (⟨store, []⟩ : Watched .configuration) := ⟨numbered, rfl⟩
  -- A run that has changed nothing has not failed late.
  have early (failure : Failure) (unchanged : t.changes = []) :
      ¬ Counts setting nameSpace name time trace (.error failure) :=
    fun late => FailsLate.changed late numbered along unchanged
  rcases apart_or_concluded path with ⟨apart, idle⟩ |
    ⟨config, earlier, closing, repository, took, removed, unpaused, rfl, unwritten, unread, course⟩
  · have unchanged := (start.along along apart).changes
    rcases result with failure | _
    · exact .inr ⟨early failure unchanged, unchanged⟩
    · exact .inr ⟨idle rfl, unchanged⟩
  · rw [← List.cons_append] at along
    obtain ⟨u, before, during⟩ := along.split
    have kept : Watched.Kept [] u := start.along before (by simp [unwritten, Request.reach])
    rcases counts_of_concluded course during kept with ⟨unchanged, gone⟩ | ⟨counted, ending⟩
    · rcases result with failure | _
      · exact .inr ⟨early failure unchanged, unchanged⟩
      · refine .inr ⟨fun counts => counts.2 ?_, unchanged⟩
        simp [gone rfl]
    · refine .inl ⟨?_, counted⟩
      rcases result with failure | _
      · rw [← List.cons_append]
        exact FailsLate.append ending
      · refine ⟨⟨config, _, unpaused, rfl⟩, fun member => ?_⟩
        rcases List.mem_cons.mp member with same | member
        · cases same
        · exact (List.mem_append.mp member).elim (fun member => unread _ member rfl) ending

end

namespace Late

open Halting

def denied {β : Type} : Request β → Store → β × Store
  | .replaceStatus .repository _, s => (.error (.client "denied"), s)
  | r, s => Store.serve Store.quiet r s

theorem answers_denied {β : Type} (r : Request β) (s : Store) :
    s.Answers ⟨r, (denied r s).1⟩ (denied r s).2 := by
  cases r with
  | replaceStatus kind object =>
    cases kind with
    | repository => exact .inr ⟨rfl, _, rfl⟩
    | _ => exact .inl (Store.honest_serve Store.quiet (.replaceStatus _ object) s)
  | _ => exact .inl (Store.honest_serve Store.quiet _ s)

def store : Store := ((Store.accept {} .configuration paired).2).putSecret keys

def call : Program Request (Except Failure Unit) :=
  (runOnce ⟨{}, .conflict⟩ web "apps" "web" ⟨0, 0⟩).run

/-- What the run has exchanged when its groups are done, what is left of it, and the store. -/
def worked : List (Exchange Request) × Program Request (Except Failure Unit) × Store :=
  follow denied 21 call store

def ended : List (Exchange Request) × Program Request (Except Failure Unit) × Store :=
  follow denied 60 call store

def counting : Program Request (Except Failure (Option Configuration)) :=
  (Status.recordRun .conflict "apps" "web" ⟨0, 0⟩ ⟨0⟩).run

def recording : Program Request (Except Failure (Option Repository)) :=
  (Status.recordRepositoryRun .conflict "apps" "default" ⟨0, 0⟩ ⟨0⟩ 0).run

theorem failsLate_ended :
    FailsLate ⟨{}, .conflict⟩ "apps" "web" ⟨0, 0⟩ ended.1 (.client "denied") :=
  ⟨worked.1, _, _, ⟨0⟩, "default", 0, _, rfl,
    follow_path denied 5 counting worked.2.2,
    follow_path denied 5 recording (follow denied 5 counting worked.2.2).2.2⟩

end Late

section

open Late

theorem runOnce_counts_late : ∃ t,
    Path call ended.1 (.done (.error (.client "denied"))) ∧
    Along (Watched.terms .configuration "apps" "web") ended.1 ⟨store, []⟩ t ∧
    ∃ old new, t.changes = [(some old, some new)] ∧ Configuration.Counted ⟨0, 0⟩ old new := by
  have path : Path call ended.1 (.done (.error (.client "denied"))) :=
    follow_path denied 60 call store
  have numbered : store.IsNumbered := fun found =>
    Store.isNumbered_empty.accept Halting.paired found
  have explained : ∃ t, Along (Watched.terms .configuration "apps" "web") ended.1 ⟨store, []⟩ t ∧
      t.store = ended.2.2 :=
    Watched.along_of_explains (follow_explains Store.Answers answers_denied 60 call store)
  obtain ⟨t, along, _⟩ := explained
  refine ⟨t, path, along, ?_⟩
  rcases runOnce_counts numbered path along with ⟨_, counted⟩ | ⟨early, _⟩
  · exact counted
  · exact absurd failsLate_ended early

end

end Backup

end ClusterBackup
