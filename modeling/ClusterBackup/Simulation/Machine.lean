import ClusterBackup.Run.Cron
import ClusterBackup.Simulation.World

/-! Programs that run side by side in one world. One runs until it waits; then the others
do, and when all wait the clock moves on to the time at which the first of them goes on. -/

set_option autoImplicit false

namespace ClusterBackup.Simulation

open Program

/-- A program up to the point at which it waits. -/
inductive Progress (α : Type) : Type 1 where
  | ended (result : α)
  | waiting (until' : Nat) (rest : Program Request α)
  | spent

/-- Runs a program until it ends or waits. The number bounds the requests and rounds. -/
def proceed {α : Type} : Nat → Program Request α → World → Progress α × World
  | 0, _, w => (.spent, w)
  | _ + 1, .done a, w => (.ended a, w)
  | bound + 1, .request r next, w =>
    match w.answer r with
    | (⟨value, none⟩, w) => proceed bound (next value) w
    | (⟨value, some wait⟩, w) =>
      if wait = 0 then proceed bound (next value) w
      else (.waiting (w.clock + wait) (next value), w)
  | bound + 1, .loop body start next, w => proceed bound (unroll body start next) w

/-- A program beside the main ones. It belongs to an entry of the table if it follows its
schedule, and ends with the entry. -/
structure Aside : Type 1 where
  entry : Option Nat
  wake : Nat
  code : Program Request Unit

structure Machine : Type 1 where
  world : World
  asides : List Aside := []

namespace Machine

/-- Runs that were started become programs of their own. -/
def adopt (m : Machine) : Machine :=
  let runs := m.world.started.map fun (nameSpace, name, time) =>
    { entry := none, wake := m.world.clock, code := do
        let _ ← (Cron.fire m.world.setting m.world.host nameSpace name time).run : Aside }
  { world := { m.world with started := [] }, asides := m.asides ++ runs }

def isLive (m : Machine) (a : Aside) : Bool := a.entry.all m.world.table.isAlive

/-- Lets one program that is due go on, and tells whether there was one. -/
def stepAside (bound : Nat) (m : Machine) : Option Machine :=
  let m := { m with asides := m.asides.filter m.isLive }
  match m.asides.find? (·.wake ≤ m.world.clock) with
  | none => none
  | some first =>
    let before := m.asides.takeWhile fun a => ! (a.wake ≤ m.world.clock)
    let others := before ++ m.asides.drop (before.length + 1)
    match proceed bound first.code m.world with
    | (.waiting wake rest, world) =>
      some (adopt { world, asides := others ++ [{ first with wake, code := rest }] })
    | (_, world) => some (adopt { world, asides := others })

/-- Lets the other programs go on until all of them wait. -/
def settle (bound : Nat) : Nat → Machine → Machine
  | 0, m => m
  | rounds + 1, m =>
    match m.stepAside bound with
    | none => { m with asides := m.asides.filter m.isLive }
    | some m => settle bound rounds m

/-- A main program, ended or waiting. -/
inductive Main (α : Type) : Type 1 where
  | ended (result : α)
  | waiting (wake : Nat) (code : Program Request α)

def Main.wake? {α : Type} : Main α → Option Nat
  | .ended _ => none
  | .waiting wake _ => some wake

/-- Lets the main programs that are due go on, in order. -/
def stepMains {α : Type} (bound : Nat) : List (Main α) → Machine → Option (List (Main α) × Machine)
  | [], m => some ([], m)
  | .ended result :: rest, m => do
    let (rest, m) ← stepMains bound rest m
    return (.ended result :: rest, m)
  | .waiting wake code :: rest, m =>
    if m.world.clock < wake then do
      let (rest, m) ← stepMains bound rest m
      return (.waiting wake code :: rest, m)
    else match proceed bound code m.world with
      | (.ended result, world) => do
        let (rest, m) ← stepMains bound rest (adopt { m with world })
        return (.ended result :: rest, m)
      | (.waiting wake code, world) => do
        let (rest, m) ← stepMains bound rest (adopt { m with world })
        return (.waiting wake code :: rest, m)
      | (.spent, _) => none

def results? {α : Type} (mains : List (Main α)) : Option (List α) :=
  mains.mapM fun
    | .ended result => some result
    | .waiting _ _ => none

/-- Runs main programs together until all have ended. The number bounds everything. -/
def runAll {α : Type} (bound : Nat) : Nat → List (Main α) → Machine → Option (List α × Machine)
  | 0, _, _ => none
  | rounds + 1, mains, m =>
    match stepMains bound mains m with
    | none => none
    | some (mains, m) =>
      match results? mains with
      | some results => some (results, m)
      | none =>
        let m := m.settle bound bound
        match (mains.filterMap Main.wake? ++ m.asides.map (·.wake)).min? with
        | none => none
        | some next =>
          runAll bound rounds mains { m with world := { m.world with clock := max next m.world.clock } }

/-- More requests than any run of a scenario makes. -/
def enough : Nat := 1000000

def together {α : Type} (codes : List (Program Request α)) (m : Machine) : Option (List α × Machine) :=
  runAll enough enough (codes.map fun code => .waiting m.world.clock code) m

def alone {α : Type} (code : Program Request α) (m : Machine) : Option (α × Machine) :=
  match m.together [code] with
  | some ([result], m) => some (result, m)
  | _ => none

/-- Follows the schedule of a new entry beside the main programs. -/
def follow (m : Machine) (e : CronEntry) : Machine :=
  let code := Cron.follow e.schedule e.nameSpace e.name
  { m with asides := m.asides ++ [{ entry := some e.number, wake := m.world.clock, code }] }

end Machine

end ClusterBackup.Simulation
