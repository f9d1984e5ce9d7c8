import ClusterBackup.Proofs.Program.Path

/-! Contracts of programs that share their world with others.

Between two requests of a program the others may do whatever its `rely` allows. In return
every exchange of the program keeps its `guarantee`, and at its end its postcondition holds.
A contract is given by recursion on the program; a loop has an invariant of its own. -/

set_option autoImplicit false

universe u

namespace ClusterBackup.Program

variable {ρ : Type → Type} {σ : Type u}

/-- What a program may expect of its world and of the others in it, and what it has to keep. -/
structure Terms (ρ : Type → Type) (σ : Type u) where
  world : σ → Exchange ρ → σ → Prop
  rely : σ → σ → Prop
  guarantee : σ → Exchange ρ → σ → Prop
  rely_refl : ∀ s, rely s s
  rely_trans : ∀ {s t u}, rely s t → rely t u → rely s u

def Terms.Stable (terms : Terms ρ σ) (holds : σ → Prop) : Prop :=
  ∀ s t, terms.rely s t → holds s → holds t

/-- What holds of a result, if there is one. -/
def IfOk {ε α : Type} (post : α → σ → Prop) : Except ε α → σ → Prop
  | .ok a, s => post a s
  | .error _, _ => True

theorem Terms.stable_ifOk {terms : Terms ρ σ} {ε α : Type} {post : α → σ → Prop}
    (stable : ∀ a, terms.Stable (post a)) (result : Except ε α) :
    terms.Stable (IfOk post result) := by
  cases result with
  | ok a => exact stable a
  | error failure => exact fun _ _ _ => id

variable (terms : Terms ρ σ)

/-- The exchanges of a program on its way, with what the others do in between. -/
def Along : List (Exchange ρ) → σ → σ → Prop
  | [], s, t => terms.rely s t
  | e :: trace, s, t => ∃ before after, terms.rely s before ∧
      (terms.world before e after ∧ terms.guarantee before e after) ∧ Along trace after t

def Ensures : {α : Type} → Program ρ α → (α → σ → Prop) → σ → Prop
  | _, .done a, post, s => ∀ t, terms.rely s t → post a t
  | _, .request r next, post, s =>
    ∀ t, terms.rely s t → ∀ reply u, terms.world t ⟨r, reply⟩ u →
      terms.guarantee t ⟨r, reply⟩ u ∧ Ensures (next reply) post u
  | _, .loop body start next, post, s =>
    ∃ invariant : _ → σ → Prop,
      (∀ x, terms.Stable (invariant x)) ∧ invariant start s ∧
        ∀ x t, invariant x t → Ensures (body x) (fun result u => match result with
          | .inl x => invariant x u
          | .inr b => Ensures (next b) post u) t

variable {terms} {α β : Type}

theorem Ensures.weaken {p : Program ρ α} {post other : α → σ → Prop} {s : σ}
    (ensures : Ensures terms p post s) (implies : ∀ a t, post a t → other a t) :
    Ensures terms p other s := by
  induction p generalizing s with
  | done a => exact fun t later => implies a t (ensures t later)
  | request r next ih =>
    intro t later reply u answered
    obtain ⟨kept, rest⟩ := ensures t later reply u answered
    exact ⟨kept, ih reply rest implies⟩
  | loop body start next ihBody ihNext =>
    -- The invariant of the loop stays; a round is weakened where it leaves the loop.
    obtain ⟨invariant, stable, first, round⟩ := ensures
    refine ⟨invariant, stable, first, fun x t holds => ihBody x (round x t holds) ?_⟩
    intro result u
    cases result with
    | inl x => exact id
    | inr b => exact fun rest => ihNext b rest implies

theorem Ensures.later {p : Program ρ α} {post : α → σ → Prop} {s t : σ}
    (ensures : Ensures terms p post s) (later : terms.rely s t) : Ensures terms p post t := by
  cases p with
  | done a => exact fun u more => ensures u (terms.rely_trans later more)
  | request r next => exact fun u more => ensures u (terms.rely_trans later more)
  | loop body start next =>
    obtain ⟨invariant, stable, first, round⟩ := ensures
    exact ⟨invariant, stable, stable start s t later first, round⟩

theorem Ensures.bind {p : Program ρ α} {f : α → Program ρ β} {post : β → σ → Prop} {s : σ}
    (ensures : Ensures terms p (fun a t => Ensures terms (f a) post t) s) :
    Ensures terms (p.bind f) post s := by
  induction p generalizing s with
  | done a => exact ensures s (terms.rely_refl s)
  | request r next ih =>
    intro t later reply u answered
    obtain ⟨kept, rest⟩ := ensures t later reply u answered
    exact ⟨kept, ih reply rest⟩
  | loop body start next _ ihNext =>
    obtain ⟨invariant, stable, first, round⟩ := ensures
    refine ⟨invariant, stable, first, fun x t holds => (round x t holds).weaken ?_⟩
    intro result u
    cases result with
    | inl x => exact id
    | inr b => exact ihNext b

theorem Ensures.bind_ok {ε : Type} {x : ExceptT ε (Program ρ) α} {f : α → ExceptT ε (Program ρ) β}
    {post : Except ε β → σ → Prop} {s : σ} (stable : ∀ result, terms.Stable (post result))
    (ensures : Ensures terms x.run (fun result t => match result with
      | .ok a => Ensures terms (f a).run post t
      | .error failure => post (.error failure) t) s) :
    Ensures terms (x >>= f).run post s := by
  refine Ensures.bind (ensures.weaken fun result t => ?_)
  cases result with
  | ok a => exact id
  | error failure => exact fun holds u later => stable _ t u later holds

theorem Ensures.after {ε : Type} {x : ExceptT ε (Program ρ) α} {f : α → ExceptT ε (Program ρ) β}
    {holds : σ → Prop} {post : Except ε β → σ → Prop} {s : σ}
    (stable : ∀ result, terms.Stable (post result))
    (part : Ensures terms x.run (fun _ t => holds t) s)
    (failed : ∀ failure t, holds t → post (.error failure) t)
    (rest : ∀ a t, holds t → Ensures terms (f a).run post t) :
    Ensures terms (x >>= f).run post s := by
  refine Ensures.bind_ok stable (part.weaken fun result t here => ?_)
  cases result with
  | ok a => exact rest a t here
  | error failure => exact failed failure t here

theorem Ensures.lift {ε : Type} {p : Program ρ α} {post : Except ε α → σ → Prop} {s : σ}
    (stable : ∀ result, terms.Stable (post result))
    (ensures : Ensures terms p (fun a t => post (.ok a) t) s) :
    Ensures terms (ExceptT.lift p : ExceptT ε (Program ρ) α).run post s :=
  Ensures.bind (ensures.weaken fun _ t holds u later => stable _ t u later holds)

theorem Ensures.unroll {ς γ : Type} {body : ς → Program ρ (ς ⊕ γ)} {start : ς}
    {next : γ → Program ρ α} {post : α → σ → Prop} {s : σ}
    (ensures : Ensures terms (.loop body start next) post s) :
    Ensures terms (unroll body start next) post s := by
  obtain ⟨invariant, stable, first, round⟩ := ensures
  refine Ensures.bind ((round start s first).weaken ?_)
  intro result u
  cases result with
  | inl x => exact fun holds => ⟨invariant, stable, holds, round⟩
  | inr b => exact id

theorem Ensures.ask {r : ρ β} {post : β → σ → Prop} {s : σ}
    (reply : ∀ t, terms.rely s t → ∀ b u, terms.world t ⟨r, b⟩ u →
      terms.guarantee t ⟨r, b⟩ u ∧ ∀ v, terms.rely u v → post b v) :
    Ensures terms (Program.ask r) post s :=
  reply

theorem Ensures.step_quiet {p q : Program ρ α} {post : α → σ → Prop} {s : σ}
    (ensures : Ensures terms p post s) (step : Step p none q) : Ensures terms q post s := by
  cases step with
  | loop body start next => exact ensures.unroll

theorem Ensures.step_exchange {p q : Program ρ α} {post : α → σ → Prop} {e : Exchange ρ} {s t : σ}
    (ensures : Ensures terms p post s) (step : Step p (some e) q) (answered : terms.world s e t) :
    terms.guarantee s e t ∧ Ensures terms q post t := by
  cases step with
  | request r next reply => exact ensures s (terms.rely_refl s) reply t answered

theorem Ensures.along {p q : Program ρ α} {post : α → σ → Prop} {trace : List (Exchange ρ)}
    {s t : σ} (ensures : Ensures terms p post s) (path : Path p trace q)
    (along : Along terms trace s t) : Ensures terms q post t := by
  induction path generalizing s with
  | here p => exact ensures.later along
  | request _ ih =>
    obtain ⟨before, after, others, answered, rest⟩ := along
    exact ih (ensures before others _ after answered.1).2 rest
  | loop _ ih => exact ih ensures.unroll along

theorem Along.next {trace : List (Exchange ρ)} {e : Exchange ρ} {s after t : σ}
    (answered : terms.world s e after ∧ terms.guarantee s e after) (along : Along terms trace after t) :
    Along terms (e :: trace) s t :=
  ⟨s, after, terms.rely_refl s, answered, along⟩

theorem Along.rely {trace : List (Exchange ρ)} {s t u : σ} (along : Along terms trace s t)
    (later : terms.rely t u) : Along terms trace s u := by
  induction trace generalizing s with
  | nil => exact terms.rely_trans along later
  | cons e rest ih =>
    obtain ⟨before, after, others, answered, rest⟩ := along
    exact ⟨before, after, others, answered, ih rest⟩

theorem Along.exchange {trace : List (Exchange ρ)} {e : Exchange ρ} {s t u : σ}
    (along : Along terms trace s t) (answered : terms.world t e u ∧ terms.guarantee t e u) :
    Along terms (trace ++ [e]) s u := by
  induction trace generalizing s with
  | nil => exact ⟨t, u, along, answered, terms.rely_refl u⟩
  | cons first rest ih =>
    obtain ⟨before, after, others, answeredFirst, rest⟩ := along
    exact ⟨before, after, others, answeredFirst, ih rest⟩

theorem Along.split {first second : List (Exchange ρ)} {s t : σ}
    (along : Along terms (first ++ second) s t) :
    ∃ between, Along terms first s between ∧ Along terms second between t := by
  induction first generalizing s with
  | nil => exact ⟨s, terms.rely_refl s, along⟩
  | cons e rest ih =>
    obtain ⟨before, after, others, answered, along⟩ := along
    obtain ⟨between, left, right⟩ := ih along
    exact ⟨between, ⟨before, after, others, answered, left⟩, right⟩

theorem Along.mono {others : Terms ρ σ} (rely : ∀ s t, terms.rely s t → others.rely s t)
    (exchange : ∀ s e t, terms.world s e t ∧ terms.guarantee s e t →
      others.world s e t ∧ others.guarantee s e t)
    {trace : List (Exchange ρ)} {s t : σ} (along : Along terms trace s t) : Along others trace s t := by
  induction trace generalizing s with
  | nil => exact rely s t along
  | cons e rest ih =>
    obtain ⟨before, after, between, answered, along⟩ := along
    exact ⟨before, after, rely _ _ between, exchange _ _ _ answered, ih along⟩

theorem Along.of_explains {world : σ → Exchange ρ → σ → Prop}
    (shares : ∀ s e t, world s e t → ∃ between, terms.rely s between ∧
      terms.world between e t ∧ terms.guarantee between e t)
    {trace : List (Exchange ρ)} {s t : σ} (explains : Explains world trace s t) :
    Along terms trace s t := by
  induction trace generalizing s with
  | nil => exact (show s = t from explains) ▸ terms.rely_refl s
  | cons e rest ih =>
    obtain ⟨after, answered, explains⟩ := explains
    obtain ⟨before, others, replied⟩ := shares s e after answered
    exact ⟨before, after, others, replied, ih explains⟩

end ClusterBackup.Program

/-! ### What a program has exchanged, as the state of its world

The replies are anything at all, and there is nobody else in this world. A contract here is an
assertion about every path of the program to its end. -/

namespace ClusterBackup.Program

variable {ρ : Type → Type} {α : Type} {trace : List (Exchange ρ)}

def transcript (ρ : Type → Type) : Terms ρ (List (Exchange ρ)) where
  world s e t := t = s ++ [e]
  rely s t := t = s
  guarantee _ _ _ := True
  rely_refl _ := rfl
  rely_trans first second := second.trans first

theorem stable_transcript (holds : List (Exchange ρ) → Prop) : (transcript ρ).Stable holds :=
  fun _ _ same here => same ▸ here

theorem along_transcript (trace s : List (Exchange ρ)) :
    Along (transcript ρ) trace s (s ++ trace) := by
  induction trace generalizing s with
  | nil => exact List.append_nil s
  | cons e rest ih =>
    refine ⟨s, s ++ [e], rfl, ⟨rfl, trivial⟩, ?_⟩
    have along := ih (s ++ [e])
    rwa [List.append_assoc] at along

theorem Ensures.of_path {p : Program ρ α} {post : α → List (Exchange ρ) → Prop} {a : α}
    (ensures : Ensures (transcript ρ) p post []) (path : Path p trace (.done a)) : post a trace :=
  ensures.along path (along_transcript trace []) trace rfl

end ClusterBackup.Program
