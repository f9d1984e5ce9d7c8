import ClusterBackup.Proofs.Program.Ending
import ClusterBackup.Proofs.Simulation.Steady
import ClusterBackup.Proofs.Store.Answers
import ClusterBackup.Simulation.Scenario
import Mathlib.Tactic.SplitIfs

/-! The table of schedules, as configurations come and go.

What is seen of a configuration, in an event of its watch or when it is read again, decides
about its entry alone. Whatever becomes of a refused expression afterwards changes nothing in
the table. -/

set_option autoImplicit false

namespace ClusterBackup

open Program

namespace CronTable

variable {t : CronTable} {config : Configuration} {key : String}

def expressions (t : CronTable) (key : String) : List String :=
  (t.entries.filter (·.key == key)).map (·.expression)

/-- Each entry follows the schedule that its expression describes. -/
def IsFaithful (t : CronTable) : Prop :=
  ∀ entry ∈ t.entries, Schedule.parse entry.expression = .ok entry.schedule

theorem expression?_eq_head? (t : CronTable) (key : String) :
    t.expression? key = (t.expressions key).head? := by
  rw [expression?, entry?, expressions, List.head?_map, List.head?_filter]

theorem expressions_remove (t : CronTable) (key other : String) :
    (t.remove key).expressions other = if other = key then [] else t.expressions other := by
  rw [expressions, remove, List.filter_filter]
  split
  · rename_i same
    rw [same, List.filter_eq_nil_iff.mpr, List.map_nil]
    simp
  · rename_i different
    rw [expressions]
    congr 2
    funext entry
    by_cases hit : entry.key = other <;> simp [hit, different]

theorem expressions_append (entries : List CronEntry) (entry : CronEntry) (next : Nat) (key : String) :
    ({ entries := entries ++ [entry], next } : CronTable).expressions key =
      ({ entries, next } : CronTable).expressions key
        ++ if entry.key = key then [entry.expression] else [] := by
  rw [expressions, expressions, List.filter_append, List.map_append]
  split_ifs with same <;> simp [same]

theorem remove_of_absent (absent : t.expression? key = none) : t.remove key = t := by
  rw [expression?, Option.map_eq_none_iff, entry?, List.find?_eq_none] at absent
  rw [remove, List.filter_eq_self.mpr]
  exact fun entry member => bne_iff_ne.mpr fun same => absent entry member (beq_iff_eq.mpr same)

theorem IsFaithful.remove (faithful : t.IsFaithful) (key : String) : (t.remove key).IsFaithful :=
  fun entry member => faithful entry (List.mem_filter.mp member |>.1)

end CronTable

namespace Configuration

/-- The expression that a configuration is to be run by, if it has a valid one. -/
def due? (config : Configuration) : Option String :=
  let expression := Text.trim config.spec.schedule
  if expression ≠ "" ∧ (Schedule.parse expression).isOk then some expression else none

theorem due?_eq_some_iff {config : Configuration} {expression : String} :
    config.due? = some expression ↔ Text.trim config.spec.schedule = expression ∧ expression ≠ "" ∧
      (Schedule.parse expression).isOk := by
  unfold due?
  dsimp only
  split_ifs with valid
  · rw [Option.some_inj]
    exact ⟨fun same => ⟨same, same ▸ valid⟩, And.left⟩
  · refine iff_of_false nofun ?_
    rintro ⟨rfl, present⟩
    exact valid present

end Configuration

namespace CronTable

variable {t : CronTable} {config : Configuration} {running : Option Configuration}

theorem due?_of_installed (current : t.expressions config.key = (running.bind (·.due?)).toList)
    (installed : t.expression? config.key = some (Text.trim config.spec.schedule)) :
    t.expressions config.key = config.due?.toList := by
  rw [expression?_eq_head?, current] at installed
  cases given : running.bind (·.due?) with
  | none => simp [given] at installed
  | some expression =>
    obtain rfl : expression = Text.trim config.spec.schedule := by simpa [given] using installed
    obtain ⟨other, _, due⟩ := Option.bind_eq_some_iff.mp given
    obtain ⟨same, present, valid⟩ := Configuration.due?_eq_some_iff.mp due
    rw [current, given, Configuration.due?_eq_some_iff.mpr ⟨rfl, present, valid⟩]

theorem expressions_configure (current : t.expressions config.key = (running.bind (·.due?)).toList)
    (key : String) : ((t.configure config).table t).expressions key =
      if key = config.key then config.due?.toList else t.expressions key := by
  have removed : (t.remove config.key).expressions key =
      if key = config.key then [] else t.expressions key := t.expressions_remove config.key key
  -- What is installed already keeps its entry. Otherwise an older entry goes in any case.
  by_cases installed : t.expression? config.key = some (Text.trim config.spec.schedule)
  · have same := due?_of_installed current installed
    simp only [configure, if_pos installed, Change.table]
    split_ifs with here
    · rw [here, same]
    · rfl
  · by_cases empty : Text.trim config.spec.schedule = ""
    · have idle : config.due? = none := if_neg fun due => due.1 empty
      simp only [configure, if_neg installed, if_pos empty, Change.table, removed, idle, Option.toList_none]
    · cases read : Schedule.parse (Text.trim config.spec.schedule) with
      | error failure =>
        have idle : config.due? = none := if_neg fun due => by simp [read, Except.isOk, Except.toBool] at due
        simp only [configure, if_neg installed, if_neg empty, read, Change.table, removed, idle,
          Option.toList_none]
      | ok schedule =>
        have due : config.due? = some (Text.trim config.spec.schedule) :=
          if_pos ⟨empty, by rw [read]; rfl⟩
        have emptied : ({ entries := (t.remove config.key).entries, next := t.next + 1 } :
            CronTable).expressions key = (t.remove config.key).expressions key := rfl
        simp only [configure, if_neg installed, if_neg empty, read, Change.table,
          expressions_append, emptied, removed, due, Option.toList_some]
        by_cases here : key = config.key
        · simp [here]
        · simp [here, Ne.symm here]

theorem table_onConfiguration (t : CronTable) (config : Configuration) :
    (Cron.onConfiguration t config false).table t = (t.configure config).table t := by
  by_cases installed : t.expression? config.key = some (Text.trim config.spec.schedule)
  · simp [Cron.onConfiguration, Trigger.ofConfiguration, configure, installed]
  · by_cases empty : Text.trim config.spec.schedule = ""
    · rw [empty] at installed
      cases found : t.expression? config.key with
      | none => simp [Cron.onConfiguration, Trigger.ofConfiguration, configure, empty, found,
          Change.table, remove_of_absent found]
      | some other =>
        rw [found, Option.some_inj] at installed
        simp [Cron.onConfiguration, Trigger.ofConfiguration, configure, empty, found, installed]
    · simp [Cron.onConfiguration, Trigger.ofConfiguration, installed, empty]

theorem table_onConfiguration_deleted (t : CronTable) (config : Configuration) :
    (Cron.onConfiguration t config true).table t = t.remove config.key := by
  cases found : t.expression? config.key with
  | none => simp [Cron.onConfiguration, Trigger.ofConfiguration, found, Change.table, remove_of_absent found]
  | some other => simp [Cron.onConfiguration, Trigger.ofConfiguration, found, Change.table]

theorem IsFaithful.configure (faithful : t.IsFaithful) (config : Configuration) :
    ((t.configure config).table t).IsFaithful := by
  unfold CronTable.configure
  dsimp only
  split_ifs
  · exact faithful
  · exact faithful.remove config.key
  · split
    · exact faithful.remove config.key
    · rename_i schedule read
      refine List.forall_mem_append.mpr ⟨faithful.remove config.key, ?_⟩
      exact List.forall_mem_singleton.mpr read

end CronTable

namespace Cron

open Simulation

/-- An event of the watch of configurations, or a configuration that is to be read again. -/
inductive Observation where
  | event (event : WatchEvent) (config : Configuration)
  | resync (nameSpace name : String)

/-- What a change leaves to do, with the table that it has left. -/
def conclude (policy : RetryPolicy) (t : CronTable) (config : Configuration)
    (change : CronTable.Change) : Program Request (Except Failure Unit × CronTable) := do
  let result ← (afterChange policy config change).run
  return (result, change.table t)

def heed (policy : RetryPolicy) (t : CronTable) :
    Observation → Program Request (Except Failure Unit × CronTable)
  | .event event config =>
    match Scenario.actsOn event with
    | none => return (.ok (), t)
    | some deleted => conclude policy t config (onConfiguration t config deleted)
  | .resync nameSpace name => do
    match ← ask (.get .configuration nameSpace name) with
    | .error failure => return (.error failure, t)
    | .ok none => return (.ok (), t.remove (nameSpace ++ "/" ++ name))
    | .ok (some config) => conclude policy t config (onConfiguration t config false)

/-- A configuration by its key as it was seen, or that it is gone. -/
structure Sighting where
  key : String
  config : Option Configuration

/-- What is seen in an observation, from what was exchanged for it. -/
def seen : Observation → List (Exchange Request) → List Sighting
  | .event event config, _ =>
    match Scenario.actsOn event with
    | none => []
    | some deleted => [⟨config.key, if deleted then none else some config⟩]
  | .resync nameSpace name, ⟨.get .configuration _ _, .ok found⟩ :: _ =>
    match found with
    | none => [⟨nameSpace ++ "/" ++ name, none⟩]
    | some config => [⟨config.key, some config⟩]
  | .resync _ _, _ => []

def latest : List Sighting → String → Option Configuration
  | [], _ => none
  | s :: earlier, key => if key = s.key then s.config else latest earlier key

variable {policy : RetryPolicy} {t t' : CronTable} {config : Configuration}
  {trace : List (Exchange Request)} {result : Except Failure Unit}

theorem table_of_conclude {change : CronTable.Change}
    (path : Path (conclude policy t config change) trace (.done (result, t'))) :
    t' = change.table t := by
  obtain ⟨r, first, second, rfl, left, right⟩ := Path.of_bind path
  obtain ⟨rfl, same⟩ := Path.of_done right
  exact congrArg Prod.snd same

/-- A configuration that is read again: the reply comes first and decides. -/
theorem resync_cases {nameSpace name : String}
    (path : Path (heed policy t (.resync nameSpace name)) trace (.done (result, t'))) :
    ∃ reply rest, trace = ⟨.get .configuration nameSpace name, reply⟩ :: rest ∧
      match reply with
      | .error failure => result = .error failure ∧ t' = t
      | .ok none => t' = t.remove (nameSpace ++ "/" ++ name)
      | .ok (some config) => t' = (onConfiguration t config false).table t := by
  obtain ⟨reply, first, rest, rfl, left, right⟩ := Path.of_bind path
  obtain rfl := Path.of_ask left
  refine ⟨reply, rest, rfl, ?_⟩
  match reply with
  | .error failure =>
    obtain ⟨_, same⟩ := Path.of_done right
    cases same
    exact ⟨rfl, rfl⟩
  | .ok none =>
    obtain ⟨_, same⟩ := Path.of_done right
    cases same
    rfl
  | .ok (some config) => exact table_of_conclude right

/-- The table has an entry for what was last seen with a valid expression, and no other one. -/
structure Tracks (sightings : List Sighting) (t : CronTable) : Prop where
  expressions : ∀ key, t.expressions key = ((latest sightings key).bind (·.due?)).toList
  faithful : t.IsFaithful

variable {sightings : List Sighting}

theorem Tracks.present (tracks : Tracks sightings t) (config : Configuration) :
    Tracks (⟨config.key, some config⟩ :: sightings) ((onConfiguration t config false).table t) := by
  rw [CronTable.table_onConfiguration]
  refine ⟨fun key => ?_, tracks.faithful.configure config⟩
  rw [CronTable.expressions_configure (tracks.expressions config.key), latest]
  split_ifs
  · rfl
  · exact tracks.expressions key

theorem Tracks.gone (tracks : Tracks sightings t) (key : String) :
    Tracks (⟨key, none⟩ :: sightings) (t.remove key) := by
  refine ⟨fun other => ?_, tracks.faithful.remove key⟩
  rw [CronTable.expressions_remove, latest]
  split_ifs
  · rfl
  · exact tracks.expressions other

theorem Tracks.heed {o : Observation} (tracks : Tracks sightings t)
    (path : Path (heed policy t o) trace (.done (result, t'))) :
    Tracks (seen o trace ++ sightings) t' := by
  cases o with
  | event event config =>
    cases acts : Scenario.actsOn event with
    | none =>
      simp only [Cron.heed, acts] at path
      obtain ⟨_, same⟩ := Path.of_done path
      cases same
      simpa [seen, acts] using tracks
    | some deleted =>
      simp only [Cron.heed, acts] at path
      rw [table_of_conclude path]
      cases deleted with
      | false => simpa [seen, acts] using tracks.present config
      | true =>
        rw [CronTable.table_onConfiguration_deleted]
        simpa [seen, acts] using tracks.gone config.key
  | resync nameSpace name =>
    obtain ⟨reply, rest, rfl, outcome⟩ := resync_cases path
    match reply with
    | .error failure => exact outcome.2 ▸ tracks
    | .ok none => exact outcome ▸ tracks.gone _
    | .ok (some config) => exact outcome ▸ tracks.present config

theorem conclude_of_applyChange {m m' : Machine} {answer : Answer} {change : CronTable.Change}
    (applied : Scenario.applyChange m config change = some (answer, m')) :
    ∃ trace result, Path (conclude m.world.setting.policy m.world.table config change) trace
      (.done (result, m'.world.table)) := by
  have concluded {m₁ : Machine}
      (acted : Scenario.act m₁ (fun _ => .done) (afterChange m₁.world.setting.policy config change) =
        some (answer, m')) (setting : m₁.world.setting = m.world.setting)
      (table : m₁.world.table = change.table m.world.table) : ∃ trace result,
        Path (conclude m.world.setting.policy m.world.table config change) trace
          (.done (result, m'.world.table)) := by
    obtain ⟨lasting, trace, path⟩ := Machine.path_of_alone acted
    obtain ⟨result, first, _, _, left, _⟩ := Path.of_bind path
    rw [setting] at left
    rw [lasting.table, table]
    exact ⟨first ++ [], result, Path.bind left (.here _)⟩
  cases change with
  | kept | emptied _ | installed _ _ | refused _ _ _ => exact concluded applied rfl rfl

/-- What the simulated cluster does on an event of a configuration is to heed it. -/
theorem heed_of_event {m m' : Machine} {answer : Answer} {event : WatchEvent}
    {source : Source Configuration} (found : Scenario.find? m.world source = some config)
    (performed : Scenario.perform m (.configurationEvent event source) = some (answer, m')) :
    ∃ trace result, Path (heed m.world.setting.policy m.world.table (.event event config)) trace
      (.done (result, m'.world.table)) := by
  simp only [Scenario.perform] at performed
  simp only [heed]
  cases acts : Scenario.actsOn event with
  | none =>
    rw [acts] at performed
    cases performed
    exact ⟨[], .ok (), .here _⟩
  | some deleted =>
    rw [acts] at performed
    dsimp only at performed
    rw [found] at performed
    exact conclude_of_applyChange performed

theorem heed_of_resync {m m' : Machine} {answer : Answer} {place : Place}
    (performed : Scenario.perform m (.resync place) = some (answer, m')) :
    ∃ trace result, Path (heed m.world.setting.policy m.world.table
      (.resync place.nameSpace place.name)) trace (.done (result, m'.world.table)) := by
  simp only [Scenario.perform, Scenario.resync] at performed
  split at performed
  · cases performed
  · rename_i failure m₁ read
    obtain ⟨lasting, trace, path⟩ := Machine.path_of_alone read
    cases performed
    rw [lasting.table]
    exact ⟨trace ++ [], .error failure, Path.bind path (.here _)⟩
  · rename_i m₁ read
    obtain ⟨lasting, trace, path⟩ := Machine.path_of_alone read
    cases performed
    rw [← lasting.table]
    exact ⟨trace ++ [], .ok (), Path.bind path (.here _)⟩
  · rename_i config m₁ read
    obtain ⟨lasting, trace, path⟩ := Machine.path_of_alone read
    obtain ⟨rest, result, concluded⟩ := conclude_of_applyChange performed
    rw [← lasting.table, ← lasting.setting]
    exact ⟨trace ++ rest, result, Path.bind path concluded⟩

namespace Kept

def configuration (name schedule : String) : Configuration :=
  { metadata := Cluster.Metadata.named "apps" name
    spec := { backend := { gcs := some ⟨"bucket", ""⟩ }, schedule } }

def reply {β : Type} (r : Request β) (_ : Unit) : β × Unit := (Store.quiet r, ())

def table : CronTable := (onConfiguration {} (configuration "db" " @hourly ") false).table {}

end Kept

end Cron

end ClusterBackup
