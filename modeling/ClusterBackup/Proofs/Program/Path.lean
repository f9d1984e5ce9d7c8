import ClusterBackup.Program

/-! Paths of programs: the requests that a program makes one after another, with the replies
that it gets. A path says nothing about who replies; a world is a relation that does. -/

set_option autoImplicit false

universe u

namespace ClusterBackup.Program

variable {ρ : Type → Type} {σ : Type u} {α β : Type}

/-- A request with a reply to it. -/
structure Exchange (ρ : Type → Type) : Type 1 where
  {β : Type}
  request : ρ β
  reply : β

/-- How a program goes on: with a reply to its request, or into the next round of its loop. -/
inductive Step : Program ρ α → Option (Exchange ρ) → Program ρ α → Prop where
  | request {β : Type} (r : ρ β) (next : β → Program ρ α) (reply : β) :
      Step (.request r next) (some ⟨r, reply⟩) (next reply)
  | loop {ς β : Type} (body : ς → Program ρ (ς ⊕ β)) (start : ς) (next : β → Program ρ α) :
      Step (.loop body start next) none (unroll body start next)

/-- What a program has exchanged on its way to what is left of it. -/
inductive Path : Program ρ α → List (Exchange ρ) → Program ρ α → Prop where
  | here (p : Program ρ α) : Path p [] p
  | request {β : Type} {r : ρ β} {next : β → Program ρ α} {reply : β}
      {trace : List (Exchange ρ)} {q : Program ρ α} :
      Path (next reply) trace q → Path (.request r next) (⟨r, reply⟩ :: trace) q
  | loop {ς β : Type} {body : ς → Program ρ (ς ⊕ β)} {start : ς} {next : β → Program ρ α}
      {trace : List (Exchange ρ)} {q : Program ρ α} :
      Path (unroll body start next) trace q → Path (.loop body start next) trace q

theorem Step.path {p q : Program ρ α} {e : Option (Exchange ρ)} (step : Step p e q) :
    Path p e.toList q := by
  cases step with
  | request r next reply => exact .request (.here _)
  | loop body start next => exact .loop (.here _)

theorem Path.trans {p q r : Program ρ α} {first second : List (Exchange ρ)}
    (left : Path p first q) (right : Path q second r) : Path p (first ++ second) r := by
  induction left with
  | here p => exact right
  | request _ ih => exact .request (ih right)
  | loop _ ih => exact .loop (ih right)

theorem unroll_bind {ς γ : Type} (body : ς → Program ρ (ς ⊕ γ)) (start : ς)
    (next : γ → Program ρ α) (f : α → Program ρ β) :
    (unroll body start next).bind f = unroll body start fun c => (next c).bind f := by
  rw [unroll, unroll, bind_assoc]
  congr 1
  funext result
  cases result with
  | inl state => rfl
  | inr c => rfl

section

variable (answer : {γ : Type} → ρ γ → σ → γ × σ)

/-- The first steps of a program, with replies that are computed. -/
def follow : Nat → Program ρ α → σ → List (Exchange ρ) × Program ρ α × σ
  | 0, p, s => ([], p, s)
  | _ + 1, .done a, s => ([], .done a, s)
  | n + 1, .request r next, s =>
    let (reply, t) := answer r s
    let (trace, rest) := follow n (next reply) t
    (⟨r, reply⟩ :: trace, rest)
  | n + 1, .loop body start next, s => follow n (unroll body start next) s

theorem follow_path (n : Nat) (p : Program ρ α) (s : σ) :
    Path p (follow answer n p s).1 (follow answer n p s).2.1 := by
  induction n generalizing p s with
  | zero => exact .here p
  | succ n ih =>
    cases p with
    | done a => exact .here _
    | request r next => exact .request (ih _ _)
    | loop body start next => exact .loop (ih _ _)

end

section

variable (world : σ → Exchange ρ → σ → Prop)

/-- A world can reply in this way, from one of its states to another. -/
def Explains : List (Exchange ρ) → σ → σ → Prop
  | [], s, s' => s = s'
  | e :: trace, s, s' => ∃ between, world s e between ∧ Explains trace between s'

variable {world} in
theorem explains_append_iff {first second : List (Exchange ρ)} {s t : σ} :
    Explains world (first ++ second) s t ↔
      ∃ between, Explains world first s between ∧ Explains world second between t := by
  induction first generalizing s with
  | nil => exact ⟨fun explains => ⟨s, rfl, explains⟩, by rintro ⟨_, rfl, explains⟩; exact explains⟩
  | cons e first ih =>
    constructor
    · rintro ⟨u, answered, explains⟩
      obtain ⟨between, left, right⟩ := ih.mp explains
      exact ⟨between, ⟨u, answered, left⟩, right⟩
    · rintro ⟨between, ⟨u, answered, left⟩, right⟩
      exact ⟨u, answered, ih.mpr ⟨between, left, right⟩⟩

variable {world} in
theorem Explains.keep {trace : List (Exchange ρ)} {s t : σ} (kept : σ → Prop)
    (explains : Explains world trace s t) (exchanges : ∀ s e t, world s e t → kept s → kept t)
    (first : kept s) : kept t := by
  induction trace generalizing s with
  | nil =>
    cases explains
    exact first
  | cons e rest ih =>
    obtain ⟨u, answered, later⟩ := explains
    exact ih later (exchanges _ _ _ answered first)

theorem follow_explains {answer : {γ : Type} → ρ γ → σ → γ × σ}
    (computes : ∀ {γ : Type} (r : ρ γ) s, world s ⟨r, (answer r s).1⟩ (answer r s).2) (n : Nat)
    (p : Program ρ α) (s : σ) :
    Explains world (follow answer n p s).1 s (follow answer n p s).2.2 := by
  induction n generalizing p s with
  | zero => exact rfl
  | succ n ih =>
    cases p with
    | done a => exact rfl
    | request r next => exact ⟨_, computes r s, ih _ _⟩
    | loop body start next => exact ih _ _

end

end ClusterBackup.Program
