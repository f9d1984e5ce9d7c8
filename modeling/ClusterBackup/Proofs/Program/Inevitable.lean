import ClusterBackup.Proofs.Program.Path

/-! What a program cannot miss, whatever its world replies.

Every way through the program comes to an exchange of some kind, or to an end of some kind
before it. There are finitely many exchanges until then, and a reply to each request. -/

set_option autoImplicit false

universe u

namespace ClusterBackup.Program

variable {ρ : Type → Type} {σ : Type u} {α β : Type} {world : σ → Exchange ρ → σ → Prop}
  {goal : Exchange ρ → Prop}

inductive Inevitable (world : σ → Exchange ρ → σ → Prop) (goal : Exchange ρ → Prop)
    (post : α → σ → Prop) : Program ρ α → σ → Prop where
  | done {a : α} {s : σ} : post a s → Inevitable world goal post (.done a) s
  | request {γ : Type} {r : ρ γ} {next : γ → Program ρ α} {s : σ} :
      (∃ reply t, world s ⟨r, reply⟩ t) →
      (∀ reply t, world s ⟨r, reply⟩ t → ¬ goal ⟨r, reply⟩ →
        Inevitable world goal post (next reply) t) →
      Inevitable world goal post (.request r next) s
  | loop {ς γ : Type} {body : ς → Program ρ (ς ⊕ γ)} {start : ς} {next : γ → Program ρ α} {s : σ} :
      Inevitable world goal post (unroll body start next) s →
      Inevitable world goal post (.loop body start next) s

namespace Inevitable

theorem bind {p : Program ρ α} {f : α → Program ρ β} {post : β → σ → Prop} {s : σ}
    (inevitable : Inevitable world goal (fun a t => Inevitable world goal post (f a) t) p s) :
    Inevitable world goal post (p.bind f) s := by
  induction inevitable with
  | done rest => exact rest
  | request possible _ ih => exact .request possible ih
  | loop _ ih =>
    rw [unroll_bind] at ih
    exact .loop ih

theorem weaken {p : Program ρ α} {post other : α → σ → Prop} {s : σ}
    (inevitable : Inevitable world goal post p s) (implies : ∀ a t, post a t → other a t) :
    Inevitable world goal other p s := by
  induction inevitable with
  | done holds => exact .done (implies _ _ holds)
  | request possible _ ih => exact .request possible ih
  | loop _ ih => exact .loop ih

theorem keep {p : Program ρ α} {post : α → σ → Prop} {s : σ} (kept : σ → Prop)
    (inevitable : Inevitable world goal post p s)
    (exchanges : ∀ s e t, world s e t → kept s → kept t) (first : kept s) :
    Inevitable world goal (fun a t => post a t ∧ kept t) p s := by
  induction inevitable with
  | done holds => exact .done ⟨holds, first⟩
  | request possible _ ih =>
    exact .request possible fun reply t answered missed =>
      ih reply t answered missed (exchanges _ _ _ answered first)
  | loop _ ih => exact .loop (ih first)

theorem bind_ok {ε : Type} {x : ExceptT ε (Program ρ) α} {f : α → ExceptT ε (Program ρ) β}
    {post : Except ε β → σ → Prop} {s : σ}
    (inevitable : Inevitable world goal (fun result t =>
      ∃ a, result = .ok a ∧ Inevitable world goal post (f a).run t) x.run s) :
    Inevitable world goal post (x >>= f).run s := by
  refine bind (inevitable.weaken ?_)
  rintro _ t ⟨a, rfl, rest⟩
  exact rest

theorem bind_parts {ε : Type} {x : ExceptT ε (Program ρ) α} {f : α → ExceptT ε (Program ρ) β} {s : σ}
    (first : Inevitable world goal (fun _ _ => True) x.run s)
    (rest : ∀ a t, Inevitable world goal (fun _ _ => True) (f a).run t) :
    Inevitable world goal (fun _ _ => True) (x >>= f).run s := by
  refine bind (first.weaken fun result t _ => ?_)
  cases result with
  | ok a => exact rest a t
  | error failure => exact .done trivial

theorem repeating {ς : Type} {body : ς → Program ρ (ς ⊕ β)} {start : ς} {post : β → σ → Prop} {s : σ}
    (distance : ς → σ → Nat)
    (rounds : ∀ x t, Inevitable world goal (fun round u =>
      round.elim (fun y => distance y u < distance x t) fun b => post b u) (body x) t) :
    Inevitable world goal post (Program.repeating start body) s := by
  unfold Program.repeating
  induction left : distance start s using Nat.strongRecOn generalizing start s with
  | ind left ih =>
    refine .loop (.bind ((rounds start s).weaken ?_))
    rintro (y | b) u holds
    · rw [Sum.elim_inl, left] at holds
      exact ih _ holds rfl
    · exact .done holds

theorem ask {r : ρ β} {post : β → σ → Prop} {s : σ} (possible : ∃ reply t, world s ⟨r, reply⟩ t)
    (replies : ∀ reply t, world s ⟨r, reply⟩ t → ¬ goal ⟨r, reply⟩ → post reply t) :
    Inevitable world goal post (Program.ask r) s :=
  .request possible fun reply t answered missed => .done (replies reply t answered missed)

end Inevitable

end ClusterBackup.Program
