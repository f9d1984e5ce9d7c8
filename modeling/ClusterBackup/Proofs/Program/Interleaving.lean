import ClusterBackup.Proofs.Program.Contract
import Mathlib.Logic.Function.Basic
import Mathlib.Logic.Relation

/-! Programs that take turns in one world, in any order of their single requests. -/

set_option autoImplicit false

universe u v w

namespace ClusterBackup.Program

variable {ρ : Type → Type} {σ : Type u} {κ : Type v} {β : κ → Type}

/-- Terms of one among many programs: all of them change the state as `later` allows, and what
belongs to one of them the others leave alone. -/
def Terms.among {γ : Type w} (world : κ → σ → Exchange ρ → σ → Prop) (later : σ → σ → Prop)
    (refl : ∀ s, later s s) (trans : ∀ {s t u}, later s t → later t u → later s u)
    (own : κ → σ → γ) (c : κ) : Terms ρ σ where
  world := world c
  rely s t := later s t ∧ own c t = own c s
  guarantee s _ t := later s t ∧ ∀ d, d ≠ c → own d t = own d s
  rely_refl s := ⟨refl s, rfl⟩
  rely_trans first second := ⟨trans first.1 second.1, second.2.trans first.2⟩

/-- What is left of each program, and the state of the world that they share. -/
structure System (ρ : Type → Type) (σ : Type u) {κ : Type v} (β : κ → Type) where
  code : (c : κ) → Program ρ (β c)
  state : σ

namespace System

/-- Each program guarantees what the others rely on. -/
def Fair (terms : κ → Terms ρ σ) : Prop :=
  ∀ c d s e t, c ≠ d → (terms c).guarantee s e t → (terms d).rely s t

theorem fair_among {γ : Type w} {world : κ → σ → Exchange ρ → σ → Prop} {later : σ → σ → Prop}
    {refl : ∀ s, later s s} {trans : ∀ {s t u}, later s t → later t u → later s u}
    {own : κ → σ → γ} : Fair (Terms.among world later refl trans own) :=
  fun _ d _ _ _ different kept => ⟨kept.1, kept.2 d (Ne.symm different)⟩

/-- Every program keeps its contract from here on. -/
def Kept (terms : κ → Terms ρ σ) (post : (c : κ) → β c → σ → Prop) (x : System ρ σ β) : Prop :=
  ∀ c, Ensures (terms c) (x.code c) (post c) x.state

variable {terms : κ → Terms ρ σ} {post : (c : κ) → β c → σ → Prop} {x y : System ρ σ β}

theorem Kept.result {c : κ} {result : β c} (kept : Kept terms post x)
    (ended : x.code c = .done result) : post c result x.state := by
  have ensures := kept c
  rw [ended] at ensures
  exact ensures _ ((terms c).rely_refl _)

variable [DecidableEq κ]

/-- One program goes on by one step. Its world may tell the programs apart. -/
inductive Moves (world : κ → σ → Exchange ρ → σ → Prop) : System ρ σ β → System ρ σ β → Prop where
  | quiet {x : System ρ σ β} {c : κ} {q : Program ρ (β c)} : Step (x.code c) none q →
      Moves world x { x with code := Function.update x.code c q }
  | exchange {x : System ρ σ β} {c : κ} {q : Program ρ (β c)} {e : Exchange ρ} {s : σ} :
      Step (x.code c) (some e) q → world c x.state e s →
      Moves world x ⟨Function.update x.code c q, s⟩

/-- Any number of steps, of any programs in any order. -/
def Reaches (world : κ → σ → Exchange ρ → σ → Prop) : System ρ σ β → System ρ σ β → Prop :=
  Relation.ReflTransGen (Moves world)

theorem Moves.kept (fair : Fair terms) (moves : Moves (fun c => (terms c).world) x y)
    (kept : Kept terms post x) : Kept terms post y := by
  intro d
  -- A step of its own is part of the contract, and one of another program what it relies on.
  cases moves with
  | @quiet c q step =>
    by_cases same : d = c
    · subst same
      simpa using (kept d).step_quiet step
    · simpa [Function.update_of_ne same] using kept d
  | @exchange c q e s step answered =>
    obtain ⟨guaranteed, rest⟩ := (kept c).step_exchange step answered
    by_cases same : d = c
    · subst same
      simpa using rest
    · simpa [Function.update_of_ne same] using
        (kept d).later (fair c d _ _ _ (Ne.symm same) guaranteed)

/-- Contracts compose: where each program guarantees what the others rely on, all of them keep
their contracts in every order of steps. -/
theorem Reaches.kept (fair : Fair terms) (reaches : Reaches (fun c => (terms c).world) x y)
    (kept : Kept terms post x) : Kept terms post y := by
  induction reaches with
  | refl => exact kept
  | tail _ moves ih => exact moves.kept fair ih

/-- What every guarantee preserves holds in every state that is reached. -/
theorem Reaches.invariant {holds : σ → Prop} (fair : Fair terms)
    (preserved : ∀ c s e t, (terms c).guarantee s e t → holds s → holds t)
    (reaches : Reaches (fun c => (terms c).world) x y) (kept : Kept terms post x)
    (initially : holds x.state) : holds y.state := by
  induction reaches with
  | refl => exact initially
  | tail reaches moves ih =>
    cases moves with
    | quiet step => exact ih
    | exchange step answered =>
      exact preserved _ _ _ _ ((Reaches.kept fair reaches kept _).step_exchange step answered).1 ih

theorem Reaches.along (fair : Fair terms) (reaches : Reaches (fun c => (terms c).world) x y)
    (kept : Kept terms post x) (c : κ) :
    ∃ trace, Path (x.code c) trace (y.code c) ∧ Along (terms c) trace x.state y.state := by
  induction reaches with
  | refl => exact ⟨[], .here _, (terms c).rely_refl _⟩
  | @tail y z reaches moves ih =>
    obtain ⟨trace, path, along⟩ := ih
    cases moves with
    | @quiet d q step =>
      by_cases same : c = d
      · subst same
        refine ⟨trace, ?_, along⟩
        simpa using path.trans step.path
      · exact ⟨trace, by simpa [Function.update_of_ne same] using path, along⟩
    | @exchange d q e s step answered =>
      have guaranteed := ((Reaches.kept fair reaches kept d).step_exchange step answered).1
      by_cases same : c = d
      · subst same
        refine ⟨trace ++ [e], ?_, along.exchange ⟨answered, guaranteed⟩⟩
        simpa using path.trans step.path
      · refine ⟨trace, by simpa [Function.update_of_ne same] using path, along.rely ?_⟩
        exact fair d c _ _ _ (Ne.symm same) guaranteed

section

variable (answer : {γ : Type} → κ → ρ γ → σ → γ × σ)

/-- One step of one program, in a world that computes its replies. -/
def turn (c : κ) (x : System ρ σ β) : System ρ σ β :=
  match x.code c with
  | .done _ => x
  | .request r next =>
    let (reply, s) := answer c r x.state
    ⟨Function.update x.code c (next reply), s⟩
  | .loop body start next => { x with code := Function.update x.code c (unroll body start next) }

def play (schedule : List κ) (x : System ρ σ β) : System ρ σ β :=
  schedule.foldl (fun x c => x.turn answer c) x

variable {answer} {world : κ → σ → Exchange ρ → σ → Prop}
  (computes : ∀ {γ : Type} (c : κ) (r : ρ γ) (s : σ),
    world c s ⟨r, (answer c r s).1⟩ (answer c r s).2)

include computes in
theorem turn_reaches (c : κ) (x : System ρ σ β) : Reaches world x (x.turn answer c) := by
  unfold turn
  cases left : x.code c with
  | done result => exact .refl
  | request r next =>
    have step := Step.request r next (answer c r x.state).1
    rw [← left] at step
    exact .single (.exchange step (computes c r x.state))
  | loop body start next =>
    have step := Step.loop body start next
    rw [← left] at step
    exact .single (.quiet step)

include computes in
theorem play_reaches (schedule : List κ) (x : System ρ σ β) :
    Reaches world x (x.play answer schedule) := by
  induction schedule generalizing x with
  | nil => exact .refl
  | cons c rest ih => exact (turn_reaches computes c x).trans (ih (x.turn answer c))

end

end System

end ClusterBackup.Program
