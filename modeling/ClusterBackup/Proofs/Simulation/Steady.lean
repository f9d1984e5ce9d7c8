import ClusterBackup.Proofs.Program.Footprint
import ClusterBackup.Simulation.Machine
import ClusterBackup.Simulation.World

/-! What lasts in the simulated cluster, and how a program comes to its end in it.

The replies leave the table of schedules and the setting alone, and also the gate unless somebody
comes or goes. -/

set_option autoImplicit false

namespace ClusterBackup.Simulation.World

open Cluster

structure Lasting (w t : World) : Prop where
  table : t.table = w.table
  setting : t.setting = w.setting

theorem Lasting.trans {w t u : World} (first : w.Lasting t) (second : t.Lasting u) : w.Lasting u :=
  ⟨second.table.trans first.table, second.setting.trans first.setting⟩

structure Steady (w t : World) : Prop extends Lasting w t where
  gate : t.gate = w.gate

theorem Steady.trans {w t u : World} (first : w.Steady t) (second : t.Steady u) : w.Steady u :=
  ⟨first.toLasting.trans second.toLasting, second.gate.trans first.gate⟩

theorem steady_of_judge {w t : World} {method : String} {verdict : Verdict}
    (judged : w.judge method = (verdict, t)) : w.Steady t := by
  cases judged
  exact ⟨⟨rfl, rfl⟩, rfl⟩

theorem steady_drive (w : World) (nameSpace name : String) : w.Steady (w.drive nameSpace name) := by
  simp only [drive]
  split
  · exact ⟨⟨rfl, rfl⟩, rfl⟩
  · split <;> exact ⟨⟨rfl, rfl⟩, rfl⟩

theorem steady_get (w : World) (kind : ResourceKind) (nameSpace name : String) :
    w.Steady (w.get kind nameSpace name).2 := by
  unfold get
  split
  · rename_i judged
    exact steady_of_judge judged
  · rename_i verdict t _ judged
    have judged := steady_of_judge judged
    dsimp only
    split
    · exact judged.trans (t.steady_drive nameSpace name)
    · exact judged

theorem steady_write {kind : ResourceKind} (w : World) (method : String)
    (change : Store → Except Failure (Resource kind) × Store) :
    w.Steady (w.write method change).2 := by
  unfold write
  split
  all_goals
    rename_i judged
    have judged := steady_of_judge judged
    exact ⟨⟨judged.table, judged.setting⟩, judged.gate⟩

theorem steady_secret (w : World) (nameSpace name : String) : w.Steady (w.secret nameSpace name).2 := by
  unfold secret
  split
  all_goals
    rename_i judged
    exact steady_of_judge judged

theorem steady_workload (w : World) (kind : WorkloadKind) (nameSpace name : String) :
    w.Steady (w.workload kind nameSpace name).2 := by
  simp only [workload]
  split
  all_goals
    rename_i judged
    have judged := steady_of_judge judged
    exact ⟨⟨judged.table, judged.setting⟩, judged.gate⟩

theorem steady_replaceWorkload (w : World) (object : Workload) :
    w.Steady (w.replaceWorkload object).2 := by
  simp only [replaceWorkload]
  split
  all_goals
    rename_i judged
    have judged := steady_of_judge judged
    exact ⟨⟨judged.table, judged.setting⟩, judged.gate⟩

theorem steady_pods (w : World) (nameSpace selector : String) :
    w.Steady (w.pods nameSpace selector).2 := by
  unfold pods
  split
  all_goals
    rename_i judged
    have judged := steady_of_judge judged
    exact ⟨⟨judged.table, judged.setting⟩, judged.gate⟩

theorem steady_deletePods (w : World) (nameSpace selector : String) :
    w.Steady (w.deletePods nameSpace selector).2 := by
  unfold deletePods
  split
  all_goals
    rename_i judged
    have judged := steady_of_judge judged
    exact ⟨⟨judged.table, judged.setting⟩, judged.gate⟩

theorem steady_answer {β : Type} (r : Request β) (w : World) (other : r.reach ≠ .turns) :
    w.Steady (w.answer r).2 := by
  cases r with
  | get kind nameSpace name => exact steady_get w kind nameSpace name
  | create kind object => exact steady_write w _ _
  | replace kind object => exact steady_write w _ _
  | replaceStatus kind object => exact steady_write w _ _
  | secret nameSpace name => exact steady_secret w nameSpace name
  | workload kind nameSpace name => exact steady_workload w kind nameSpace name
  | replaceWorkload object => exact steady_replaceWorkload w object
  | pods nameSpace selector => exact steady_pods w nameSpace selector
  | deletePods nameSpace selector => exact steady_deletePods w nameSpace selector
  | acquire | release | start => exact absurd rfl other
  | _ => exact ⟨⟨rfl, rfl⟩, rfl⟩

theorem lasting_answer {β : Type} (r : Request β) (w : World) : w.Lasting (w.answer r).2 := by
  by_cases turns : r.reach = .turns
  · cases r with
    | acquire who =>
      simp only [answer, atOnce, acquire]
      split <;> exact ⟨rfl, rfl⟩
    | release => exact ⟨rfl, rfl⟩
    | start nameSpace name time => exact ⟨rfl, rfl⟩
    | _ => cases turns
  · exact (steady_answer r w turns).toLasting

end ClusterBackup.Simulation.World

/-! ### A program that is run alone

It comes to its end on one of its paths. What goes on beside it may change everything but what lasts. -/

namespace ClusterBackup.Simulation

open Program

variable {α : Type}

/-- How far a program has come on a path, where one knows. -/
def Progress.Reached (p : Program Request α) : Progress α → Prop
  | .ended result => ∃ trace, Path p trace (.done result)
  | .waiting _ rest => ∃ trace, Path p trace rest
  | .spent => True

theorem Progress.Reached.before {p q : Program Request α} {progress : Progress α}
    (reached : progress.Reached q)
    (step : ∀ {trace rest}, Path q trace rest → ∃ longer, Path p longer rest) : progress.Reached p := by
  cases progress with
  | ended result | waiting wake rest =>
    obtain ⟨trace, path⟩ := reached
    exact step path
  | spent => trivial

theorem reached_proceed (bound : Nat) (p : Program Request α) (w : World) :
    (proceed bound p w).1.Reached p ∧ w.Lasting (proceed bound p w).2 := by
  induction bound generalizing p w with
  | zero => exact ⟨trivial, rfl, rfl⟩
  | succ bound ih =>
    cases p with
    | done a => exact ⟨⟨[], .here _⟩, rfl, rfl⟩
    | loop body start next =>
      obtain ⟨reached, lasting⟩ := ih (unroll body start next) w
      exact ⟨reached.before fun path => ⟨_, .loop path⟩, lasting⟩
    | request r next =>
      have lasting := World.lasting_answer r w
      rw [proceed]
      generalize w.answer r = answered at lasting
      obtain ⟨⟨value, wait⟩, t⟩ := answered
      obtain ⟨reached, rest⟩ := ih (next value) t
      have goesOn : (proceed bound (next value) t).1.Reached (.request r next) ∧
          w.Lasting (proceed bound (next value) t).2 :=
        ⟨reached.before fun path => ⟨_, .request path⟩, lasting.trans rest⟩
      cases wait with
      | none => exact goesOn
      | some wait =>
        dsimp only
        split
        · exact goesOn
        · exact ⟨⟨_, .request (.here _)⟩, lasting⟩

namespace Machine

theorem lasting_stepAside {bound : Nat} {m m' : Machine} (stepped : m.stepAside bound = some m') :
    m.world.Lasting m'.world := by
  unfold stepAside at stepped
  dsimp only at stepped
  split at stepped
  · cases stepped
  · rename_i first _
    have lasting := (reached_proceed bound first.code m.world).2
    generalize proceed bound first.code m.world = progress at stepped lasting
    obtain ⟨progress, w⟩ := progress
    cases progress with
    | ended _ | waiting _ _ | spent =>
      cases stepped
      exact ⟨lasting.table, lasting.setting⟩

theorem lasting_settle (bound rounds : Nat) (m : Machine) :
    m.world.Lasting (m.settle bound rounds).world := by
  induction rounds generalizing m with
  | zero => exact ⟨rfl, rfl⟩
  | succ rounds ih =>
    rw [settle]
    split
    · exact ⟨rfl, rfl⟩
    · rename_i m' stepped
      exact (lasting_stepAside stepped).trans (ih m')

/-- What has become of a main program that was to go on. -/
def Main.Reached (code : Program Request α) : Main α → Prop
  | .ended result => ∃ trace, Path code trace (.done result)
  | .waiting _ rest => ∃ trace, Path code trace rest

theorem stepMains_single {bound wake : Nat} {code : Program Request α} {m m' : Machine}
    {mains : List (Main α)} (stepped : stepMains bound [.waiting wake code] m = some (mains, m')) :
    m.world.Lasting m'.world ∧ ∃ main, mains = [main] ∧ main.Reached code := by
  rw [stepMains] at stepped
  split at stepped
  · cases stepped
    exact ⟨⟨rfl, rfl⟩, _, rfl, [], .here _⟩
  · obtain ⟨reached, lasting⟩ := reached_proceed bound code m.world
    generalize proceed bound code m.world = progress at stepped reached lasting
    obtain ⟨progress, w⟩ := progress
    cases progress with
    | ended _ | waiting _ _ =>
      cases stepped
      exact ⟨⟨lasting.table, lasting.setting⟩, _, rfl, reached⟩
    | spent => cases stepped

theorem runAll_single {bound rounds wake : Nat} {code : Program Request α} {m m' : Machine}
    {results : List α} (ended : runAll bound rounds [.waiting wake code] m = some (results, m')) :
    m.world.Lasting m'.world ∧
      ∃ result trace, results = [result] ∧ Path code trace (.done result) := by
  induction rounds generalizing wake code m with
  | zero => cases ended
  | succ rounds ih =>
    rw [runAll] at ended
    cases stepped : stepMains bound [.waiting wake code] m with
    | none =>
      rw [stepped] at ended
      cases ended
    | some after =>
      obtain ⟨mains, m₁⟩ := after
      obtain ⟨lasting, main, rfl, reached⟩ := stepMains_single stepped
      rw [stepped] at ended
      cases main with
      | ended result =>
        obtain ⟨trace, path⟩ := reached
        cases ended
        exact ⟨lasting, result, trace, rfl, path⟩
      | waiting wake rest =>
        -- The program waits, and goes on from where it is after the others have settled.
        obtain ⟨earlier, path⟩ := reached
        have unfinished : results? [Main.waiting wake rest] = none := rfl
        simp only [unfinished] at ended
        split at ended
        · cases ended
        · obtain ⟨later, result, trace, rfl, onward⟩ := ih ended
          have settled : m.world.Lasting m'.world :=
            (lasting.trans (lasting_settle bound bound m₁)).trans ⟨later.table, later.setting⟩
          exact ⟨settled, result, _, rfl, path.trans onward⟩

theorem path_of_alone {code : Program Request α} {m m' : Machine} {result : α}
    (ended : m.alone code = some (result, m')) :
    m.world.Lasting m'.world ∧ ∃ trace, Path code trace (.done result) := by
  unfold alone together at ended
  split at ended
  · rename_i same
    cases ended
    obtain ⟨lasting, _, trace, same, path⟩ := runAll_single same
    cases same
    exact ⟨lasting, trace, path⟩
  · cases ended

end Machine

end ClusterBackup.Simulation
