import ClusterBackup.Proofs.Program.Contract

/-! Programs that make requests of certain kinds only. -/

set_option autoImplicit false

universe u

namespace ClusterBackup.Program

variable {ρ : Type → Type} {σ : Type u} {allowed : ⦃β : Type⦄ → ρ β → Prop} {α β : Type}

def Within (allowed : ⦃β : Type⦄ → ρ β → Prop) : {α : Type} → Program ρ α → Prop
  | _, .done _ => True
  | _, .request r next => allowed r ∧ ∀ reply, Within allowed (next reply)
  | _, .loop body _ next => (∀ x, Within allowed (body x)) ∧ ∀ result, Within allowed (next result)

namespace Within

theorem ask {r : ρ β} (permitted : allowed r) : Within allowed (Program.ask r) :=
  ⟨permitted, fun _ => trivial⟩

theorem of_request {r : ρ β} {next : β → Program ρ α}
    (within : Within allowed (.request r next)) (reply : β) : Within allowed (next reply) :=
  within.2 reply

theorem bind {p : Program ρ α} {f : α → Program ρ β} (first : Within allowed p)
    (rest : ∀ a, Within allowed (f a)) : Within allowed (p.bind f) := by
  induction p with
  | done a => exact rest a
  | request r next ih => exact ⟨first.1, fun reply => ih reply (first.2 reply) rest⟩
  | loop body start next _ ih => exact ⟨first.1, fun result => ih result (first.2 result) rest⟩

theorem repeating {ς : Type} {start : ς} {body : ς → Program ρ (ς ⊕ β)}
    (round : ∀ x, Within allowed (body x)) : Within allowed (Program.repeating start body) :=
  ⟨round, fun _ => trivial⟩

theorem bind_ok {ε : Type} {x : ExceptT ε (Program ρ) α} {f : α → ExceptT ε (Program ρ) β}
    (first : Within allowed x.run) (rest : ∀ a, Within allowed (f a).run) :
    Within allowed (x >>= f).run := by
  refine bind first fun result => ?_
  cases result with
  | ok a => exact rest a
  | error failure => trivial

theorem mono {more : ⦃β : Type⦄ → ρ β → Prop} {p : Program ρ α}
    (wider : ∀ ⦃γ : Type⦄ (r : ρ γ), allowed r → more r) (within : Within allowed p) :
    Within more p := by
  induction p with
  | done a => exact trivial
  | request r next ih => exact ⟨wider r within.1, fun reply => ih reply (within.2 reply)⟩
  | loop body start next ihBody ihNext =>
    exact ⟨fun x => ihBody x (within.1 x), fun result => ihNext result (within.2 result)⟩

theorem unroll {ς γ : Type} {body : ς → Program ρ (ς ⊕ γ)} {start : ς} {next : γ → Program ρ α}
    (within : Within allowed (.loop body start next)) :
    Within allowed (Program.unroll body start next) := by
  refine .bind (within.1 start) fun result => ?_
  cases result with
  | inl x => exact within
  | inr b => exact within.2 b

theorem path {p q : Program ρ α} {trace : List (Exchange ρ)} (within : Within allowed p)
    (path : Path p trace q) : ∀ e ∈ trace, allowed e.request := by
  induction path with
  | here p => exact fun e member => absurd member (List.not_mem_nil)
  | request _ ih =>
    intro e member
    rcases List.mem_cons.mp member with rfl | member
    · exact within.1
    · exact ih (within.2 _) e member
  | loop _ ih => exact ih within.unroll

theorem ensures {terms : Terms ρ σ} {holds : σ → Prop} {p : Program ρ α} {s : σ}
    (stable : terms.Stable holds)
    (keeps : ∀ ⦃γ : Type⦄ (r : ρ γ), allowed r → ∀ s reply t, holds s → terms.world s ⟨r, reply⟩ t →
      terms.guarantee s ⟨r, reply⟩ t ∧ holds t)
    (within : Within allowed p) (first : holds s) :
    Ensures terms p (fun _ t => holds t) s := by
  induction p generalizing s with
  | done a => exact fun t later => stable s t later first
  | request r next ih =>
    intro t later reply u answered
    obtain ⟨kept, still⟩ := keeps r within.1 t reply u (stable s t later first) answered
    exact ⟨kept, ih reply (within.2 reply) still⟩
  | loop body start next ihBody ihNext =>
    refine ⟨fun _ => holds, fun _ => stable, first, fun x t holds => ?_⟩
    refine (ihBody x (within.1 x) holds).weaken fun result u still => ?_
    cases result with
    | inl x => exact still
    | inr b => exact ihNext b (within.2 b) still

end Within

end ClusterBackup.Program
