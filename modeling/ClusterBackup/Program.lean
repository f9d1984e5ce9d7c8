/-! Programs as trees of requests.

A program ends with a result, or makes a request and goes on with the reply, or repeats a
body until it gives a result. What requests do is left to whoever runs the program, so the
same program can be run alone, among others, and against requests that fail. -/

set_option autoImplicit false

namespace ClusterBackup

inductive Program (ρ : Type → Type) : Type → Type 1 where
  | done {α : Type} (result : α) : Program ρ α
  | request {α β : Type} (r : ρ β) (next : β → Program ρ α) : Program ρ α
  | loop {α σ β : Type} (body : σ → Program ρ (σ ⊕ β)) (start : σ) (next : β → Program ρ α) :
      Program ρ α

namespace Program

variable {ρ : Type → Type}

def bind {α β : Type} : Program ρ α → (α → Program ρ β) → Program ρ β
  | .done a, f => f a
  | .request r next, f => .request r fun reply => bind (next reply) f
  | .loop body start next, f => .loop body start fun result => bind (next result) f

instance : Monad (Program ρ) where
  pure := .done
  bind := bind

def ask {β : Type} (r : ρ β) : Program ρ β := .request r .done

def repeating {σ β : Type} (start : σ) (body : σ → Program ρ (σ ⊕ β)) : Program ρ β :=
  .loop body start .done

/-- The first round of a loop, and then the others. -/
def unroll {α σ β : Type} (body : σ → Program ρ (σ ⊕ β)) (start : σ) (next : β → Program ρ α) :
    Program ρ α :=
  (body start).bind fun
    | .inl state => .loop body state next
    | .inr result => next result

theorem bind_assoc {α β γ : Type} (p : Program ρ α) (f : α → Program ρ β) (g : β → Program ρ γ) :
    (p.bind f).bind g = p.bind fun a => (f a).bind g := by
  induction p with
  | done a => rfl
  | request r next ih => simp only [bind, ih]
  | loop body start next _ ih => simp only [bind, ih]

/-- Runs a program with requests that are answered from a state. The number bounds the
requests and the rounds of loops. -/
def run {σ α : Type} (answer : {β : Type} → ρ β → σ → β × σ) :
    Nat → Program ρ α → σ → Option (α × σ)
  | 0, _, _ => none
  | _ + 1, .done a, state => some (a, state)
  | bound + 1, .request r next, state =>
    let (reply, state) := answer r state
    run answer bound (next reply) state
  | bound + 1, .loop body start next, state => run answer bound (unroll body start next) state

/-- Requests replaced by programs of other requests. -/
def translate {ρ' : Type → Type} {α : Type} (meaning : {β : Type} → ρ β → Program ρ' β) :
    Program ρ α → Program ρ' α
  | .done a => .done a
  | .request r next => (meaning r).bind fun reply => translate meaning (next reply)
  | .loop body start next =>
    .loop (fun state => translate meaning (body state)) start fun b => translate meaning (next b)

end Program

end ClusterBackup
