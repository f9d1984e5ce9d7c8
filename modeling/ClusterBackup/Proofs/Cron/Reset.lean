import ClusterBackup.Proofs.Status.Reports
import ClusterBackup.Proofs.Status.Settled
import ClusterBackup.Run.Cron

/-! Which schedule is erased when an expression is refused.

It is the configuration of the event that is refused, and the stored one that loses its schedule.
Whoever has written in between, what is erased is what the accepted attempt of the reset has
read. -/

set_option autoImplicit false

namespace ClusterBackup

open Program Simulation Simulation.Store

namespace Configuration

def unscheduled (config : Configuration) : Configuration :=
  { config with spec := { config.spec with schedule := "" } }

theorem clearSchedule_eq (config : Configuration) :
    config.clearSchedule = (config.unscheduled, decide (config.spec.schedule ≠ "")) := by
  obtain ⟨metadata, spec, status⟩ := config
  by_cases empty : spec.schedule = ""
  · cases spec
    subst empty
    rfl
  · simp [clearSchedule, unscheduled, empty]

end Configuration

namespace Cron

/-- A reset is accepted: the configuration is read, and written without its schedule. -/
def Clears (nameSpace name : String) (old written : Configuration)
    (trace : List (Exchange Request)) : Prop :=
  ∃ earlier later, trace = earlier ++
    ([⟨.get .configuration nameSpace name, .ok (some old)⟩,
      ⟨.replace .configuration old.unscheduled, .ok written⟩] ++ later)

def refusal (config : Configuration) (failure : Failure) : Event :=
  { object := config.reference, warning := true, reason := "InvalidCronExpression",
    action := "Schedule", note := some failure.message }

/-- What is changed is what was read by the attempt that is accepted. -/
def AsRead (nameSpace name : String) (trace : List (Exchange Request))
    (changes : List (Option Configuration × Option Configuration)) : Prop :=
  ∀ before after, (before, after) ∈ changes ↔ ∃ old written,
    before = some old ∧ after = some written ∧ Clears nameSpace name old written trace

/-- What is changed of the stored configuration after the one of an event has been refused. -/
structure Erasure (config : Configuration) (failure : Failure) (trace : List (Exchange Request))
    (changes : List (Option Configuration × Option Configuration)) : Prop where
  once : changes.length ≤ 1
  read : AsRead config.nameSpace config.name trace changes
  content : ∀ old written, Clears config.nameSpace config.name old written trace →
    old.spec.schedule ≠ "" ∧ ∃ version, written = old.unscheduled.stamped version
  told : changes ≠ [] → ∃ rest, trace = ⟨.publish (refusal config failure), ()⟩ :: rest

variable {policy : RetryPolicy} {table : CronTable} {config : Configuration} {failure : Failure}
  {trace : List (Exchange Request)} {result : Except Failure Unit} {nameSpace name : String}
  {s t : Watched .configuration}

/-- A configuration that is refused is reported, unless its expression is empty or installed. -/
theorem path_of_refused (refused : Schedule.parse (Text.trim config.spec.schedule) = .error failure)
    (path : Path (afterChange policy config (table.configure config)).run trace (.done result)) :
    trace = [] ∨ Path (reportRefused policy config (Text.trim config.spec.schedule) failure).run
      trace (.done result) := by
  unfold CronTable.configure at path
  dsimp only at path
  split at path
  · exact .inl (Path.of_done path).1
  · split at path
    · exact .inl (Path.of_done path).1
    · rw [refused] at path
      exact .inr path

theorem parts_of_refused {expression : String}
    (path : Path (reportRefused policy config expression failure).run trace (.done result)) :
    ∃ body last answer, trace = ⟨.publish (refusal config failure), ()⟩ :: (body ++ last) ∧
      Path (((Report.clearSchedule).update policy).code config.nameSpace config.name) body
        (.done answer) ∧ Apart (.writing .configuration) last := by
  obtain ⟨_, rest, rfl, going⟩ := Action.of_tell_bind path
  rcases Path.of_bind_ok going with ⟨_, _, reset⟩ | ⟨_, body, last, rfl, reset, ending⟩
  · obtain ⟨flag, updating⟩ := Report.path_update (r := .clearSchedule) reset
    exact ⟨rest, [], _, by rw [List.append_nil]; rfl, updating, apart_nil _⟩
  · obtain ⟨flag, updating⟩ := Report.path_update (r := .clearSchedule) reset
    obtain ⟨_, _, rfl⟩ := Action.of_tell ending
    exact ⟨body, _, _, rfl, updating, by simp [Request.reach]⟩

theorem apply_clearSchedule (policy : RetryPolicy) (old : Configuration) :
    (Report.clearSchedule.update policy).apply old = old.unscheduled :=
  congrArg Prod.fst old.clearSchedule_eq

theorem settling_clearSchedule (policy : RetryPolicy) (old written : Configuration) :
    (Report.clearSchedule.update policy).settling nameSpace name old written =
      [⟨.get .configuration nameSpace name, .ok (some old)⟩,
        ⟨.replace .configuration old.unscheduled, .ok written⟩] := by
  rw [Update.settling, apply_clearSchedule]
  rfl

theorem Clears.within {old written : Configuration}
    (clears : Clears nameSpace name old written trace) (first last : List (Exchange Request)) :
    Clears nameSpace name old written (first ++ (trace ++ last)) := by
  obtain ⟨earlier, later, rfl⟩ := clears
  exact ⟨first ++ earlier, later ++ last, by simp only [List.append_assoc]⟩

theorem Clears.mem_changes {old written : Configuration}
    (clears : Clears nameSpace name old written trace) (numbered : s.store.IsNumbered)
    (along : Along (Watched.terms .configuration nameSpace name) trace s t) :
    (some old, some written) ∈ t.changes := by
  obtain ⟨earlier, later, rfl⟩ := clears
  rw [← settling_clearSchedule .conflict] at along
  obtain ⟨before, earliest, along⟩ := along.split
  obtain ⟨after, during, latest⟩ := along.split
  have kept : Watched.Kept before.changes before := ⟨Watched.along_numbered earliest numbered, rfl⟩
  obtain ⟨_, changed⟩ := kept.along_settling (Report.clearSchedule.regular .conflict) during
  exact (Watched.along_prefix latest).subset (changed.changes ▸ by simp)

theorem changes_of_reset {answer : Except Failure (Option Configuration) × Bool}
    (path : Path ((Report.clearSchedule.update policy).code nameSpace name) trace (.done answer))
    (along : Along (Watched.terms .configuration nameSpace name) trace s t)
    (kept : Watched.Kept [] s) :
    Watched.Kept [] t ∨ ∃ old written, Clears nameSpace name old written trace ∧
      old.spec.schedule ≠ "" ∧ (∃ version, written = old.unscheduled.stamped version) ∧
      Watched.Kept [(some old, some written)] t := by
  cases Update.course path with
  | idle quiet => exact .inl (kept.along_quiet along quiet)
  | @settled earlier old written quiet tried same _ =>
    subst same
    obtain ⟨between, before, during⟩ := along.split
    obtain ⟨content, changed⟩ := (kept.along_quiet before quiet).along_settling
      (Report.clearSchedule.regular policy) during
    have clears : Clears nameSpace name old written
        (earlier ++ (Report.clearSchedule.update policy).settling nameSpace name old written) :=
      ⟨earlier, [], by rw [settling_clearSchedule, List.append_nil]⟩
    have changing : (Configuration.clearSchedule old).2 = true := tried
    rw [Configuration.clearSchedule_eq] at changing
    rw [apply_clearSchedule] at content
    exact .inr ⟨old, written, clears, of_decide_eq_true changing, ⟨_, content⟩, changed⟩

/-- After a refusal nothing is changed, or the one change is that of the accepted attempt. -/
theorem changes_of_refused
    (refused : Schedule.parse (Text.trim config.spec.schedule) = .error failure)
    (path : Path (afterChange policy config (table.configure config)).run trace (.done result))
    (along : Along (Watched.terms .configuration config.nameSpace config.name) trace s t)
    (start : Watched.Kept [] s) :
    t.changes = [] ∨ ∃ old written, Clears config.nameSpace config.name old written trace ∧
      old.spec.schedule ≠ "" ∧ (∃ version, written = old.unscheduled.stamped version) ∧
      (∃ rest, trace = ⟨.publish (refusal config failure), ()⟩ :: rest) ∧
      t.changes = [(some old, some written)] := by
  rcases path_of_refused refused path with rfl | path
  · exact .inl (start.along along (apart_nil _)).changes
  · obtain ⟨body, last, answer, rfl, updating, apart⟩ := parts_of_refused path
    obtain ⟨before, after, others, answered, along⟩ := along
    have warned := answered.1.kept (Watched.Kept.stable _ _ _ others start) nofun
    obtain ⟨between, during, ending⟩ := along.split
    rcases changes_of_reset updating during warned with
      kept | ⟨old, written, clears, present, content, changed⟩
    · exact .inl (kept.along ending apart).changes
    · exact .inr ⟨old, written, clears.within [_] last, present, content, ⟨_, rfl⟩,
        (changed.along ending apart).changes⟩

theorem AsRead.forall_iff {changes : List (Option Configuration × Option Configuration)}
    (read : AsRead nameSpace name trace changes) (such : Configuration → Prop) :
    (∀ old after, (some old, after) ∈ changes → such old) ↔
      ∀ old written, Clears nameSpace name old written trace → such old := by
  constructor
  · intro all old written clears
    exact all old (some written) ((read _ _).mpr ⟨old, written, rfl, rfl, clears⟩)
  · intro all old after member
    obtain ⟨other, written, same, _, clears⟩ := (read _ _).mp member
    cases same
    exact all old written clears

theorem erasure_of_idle
    (spared : ∀ old written, ¬ Clears config.nameSpace config.name old written trace) :
    Erasure config failure trace [] where
  once := Nat.zero_le 1
  read _ _ := iff_of_false List.not_mem_nil fun ⟨old, written, _, _, clears⟩ =>
    spared old written clears
  content old written clears := absurd clears (spared old written)
  told changed := absurd rfl changed

theorem erasure_of_change {old written : Configuration}
    (clears : Clears config.nameSpace config.name old written trace)
    (only : ∀ other new, Clears config.nameSpace config.name other new trace →
      other = old ∧ new = written)
    (content : old.spec.schedule ≠ "" ∧ ∃ version, written = old.unscheduled.stamped version)
    (told : ∃ rest, trace = ⟨.publish (refusal config failure), ()⟩ :: rest) :
    Erasure config failure trace [(some old, some written)] where
  once := Nat.le_refl 1
  read before after := by
    constructor
    · intro member
      obtain ⟨rfl, rfl⟩ := Prod.mk.inj (List.mem_singleton.mp member)
      exact ⟨old, written, rfl, rfl, clears⟩
    · rintro ⟨other, new, rfl, rfl, again⟩
      obtain ⟨rfl, rfl⟩ := only other new again
      exact List.mem_singleton_self _
  content other new again := by
    obtain ⟨rfl, rfl⟩ := only other new again
    exact content
  told _ := told

/-- The reset after a refusal erases what it reads. That is the refused expression, and no valid
one, exactly if the accepted attempt has read such a one. -/
theorem erasure_of_refused {store : Store}
    (refused : Schedule.parse (Text.trim config.spec.schedule) = .error failure)
    (numbered : store.IsNumbered)
    (path : Path (afterChange policy config (table.configure config)).run trace (.done result))
    (along : Along (Watched.terms .configuration config.nameSpace config.name) trace ⟨store, []⟩ t) :
    Erasure config failure trace t.changes ∧
      ((∀ old after, (some old, after) ∈ t.changes →
          Text.trim old.spec.schedule = Text.trim config.spec.schedule) ↔
        ∀ old written, Clears config.nameSpace config.name old written trace →
          Text.trim old.spec.schedule = Text.trim config.spec.schedule) ∧
      ((∀ old after, (some old, after) ∈ t.changes →
          (Schedule.parse (Text.trim old.spec.schedule)).isOk = false) ↔
        ∀ old written, Clears config.nameSpace config.name old written trace →
          (Schedule.parse (Text.trim old.spec.schedule)).isOk = false) := by
  have found (old written : Configuration)
      (clears : Clears config.nameSpace config.name old written trace) :
      (some old, some written) ∈ t.changes := clears.mem_changes numbered along
  have erasure : Erasure config failure trace t.changes := by
    rcases changes_of_refused refused path along ⟨numbered, rfl⟩ with
      same | ⟨old, written, clears, present, content, told, same⟩
    · rw [same] at found ⊢
      exact erasure_of_idle fun old written clears => List.not_mem_nil (found old written clears)
    · rw [same] at found ⊢
      refine erasure_of_change clears (fun other new again => ?_) ⟨present, content⟩ told
      simpa using found other new again
  exact ⟨erasure, erasure.read.forall_iff _, erasure.read.forall_iff _⟩

namespace Overtaken

def configuration (schedule : String) : Configuration :=
  { metadata := Cluster.Metadata.named "apps" "db", spec := { backend := {}, schedule } }

/-- The configuration of the event, as it was stored first. -/
def reported : Configuration := (Store.accept {} .configuration (configuration "every tuesday-ish")).1

def store : Store :=
  let before := (Store.accept {} .configuration (configuration "every tuesday-ish")).2
  (before.accept .configuration (configuration "@hourly")).2

def handling : Program Request (Except Failure Unit) :=
  (afterChange .conflict reported (CronTable.configure {} reported)).run

def handled : List (Exchange Request) × Program Request (Except Failure Unit) × Store :=
  Program.follow (Store.serve Store.quiet) 9 handling store

theorem clears : ∃ old written, Clears "apps" "db" old written handled.1 ∧
    old.spec.schedule = "@hourly" ∧ written.spec.schedule = "" :=
  ⟨_, _, ⟨[_], [_], rfl⟩, rfl, rfl⟩

end Overtaken

open Overtaken in
theorem erasure_of_refused_overtaken : ∃ t,
    Along (Watched.terms .configuration "apps" "db") handled.1 ⟨store, []⟩ t ∧
      ∃ old written, t.changes = [(some old, some written)] ∧ old.spec.schedule = "@hourly" ∧
        (Schedule.parse "@hourly").isOk ∧ written.spec.schedule = "" := by
  have refused : Schedule.parse (Text.trim reported.spec.schedule) = .error _ := rfl
  have before : (Store.accept {} .configuration (configuration "every tuesday-ish")).2.IsNumbered :=
    fun found => Store.isNumbered_empty.accept _ found
  have numbered : store.IsNumbered := fun found => IsNumbered.accept before _ found
  have path : Path handling handled.1 (.done (.ok ())) :=
    follow_path (Store.serve Store.quiet) 9 handling store
  have explained : ∃ t, Along (Watched.terms .configuration "apps" "db") handled.1 ⟨store, []⟩ t ∧
      t.store = handled.2.2 :=
    Watched.along_of_explains (follow_explains Store.Answers
      (fun r s => .inl (honest_serve Store.quiet r s)) 9 handling store)
  obtain ⟨t, along, _⟩ := explained
  have erasure := (erasure_of_refused refused numbered path along).1
  obtain ⟨old, written, cleared, valid, empty⟩ := clears
  have member := (erasure.read _ _).mpr ⟨old, written, rfl, rfl, cleared⟩
  obtain ⟨change, only⟩ := List.length_eq_one_iff.mp
    (Nat.le_antisymm erasure.once (List.length_pos_of_mem member))
  rw [only, List.mem_singleton] at member
  exact ⟨t, along, old, written, member ▸ only, valid, rfl, empty⟩

end Cron

end ClusterBackup
