import ClusterBackup.Proofs.Program.Ending

/-! Loops of programs, taken apart round by round. -/

set_option autoImplicit false

namespace ClusterBackup.Program

variable {ρ : Type → Type} {β ς : Type} {trace : List (Exchange ρ)}
  {body : ς → Program ρ (ς ⊕ β)} {start : ς} {result : β}

/-- The rounds of a loop, one after another, up to the one that gives the result. -/
inductive Turns (body : ς → Program ρ (ς ⊕ β)) : ς → List (Exchange ρ) → β → Prop where
  | last {x : ς} {trace : List (Exchange ρ)} {b : β} :
      Path (body x) trace (.done (.inr b)) → Turns body x trace b
  | more {x y : ς} {first rest : List (Exchange ρ)} {b : β} :
      Path (body x) first (.done (.inl y)) → Turns body y rest b → Turns body x (first ++ rest) b

/-- What is left of a loop in the middle of a round. -/
def ahead (body : ς → Program ρ (ς ⊕ β)) : ς ⊕ β → Program ρ β
  | .inl state => .loop body state .done
  | .inr result => .done result

theorem unroll_eq_bind : unroll body start .done = (body start).bind (ahead body) := by
  rw [unroll]
  congr 1
  funext round
  cases round <;> rfl

section

variable (holds : ς → List (Exchange ρ) → Program ρ β → Prop)
  (last : ∀ x trace code, Path (body x) trace code → holds x trace (code.bind (ahead body)))
  (more : ∀ x y first second rest, Path (body x) first (.done (.inl y)) → holds y second rest →
    holds x (first ++ second) rest)

include last more

theorem holds_of_bind {p : Program ρ (ς ⊕ β)} {rest : Program ρ β}
    (path : Path (p.bind (ahead body)) trace rest) :
    (∃ code, Path p trace code ∧ rest = code.bind (ahead body)) ∨
      ∃ state first second, trace = first ++ second ∧ Path p first (.done (.inl state)) ∧
        holds state second rest := by
  generalize whole : p.bind (ahead body) = code at path
  -- A round that is done hands on to the next one, whose path is a part of this one.
  induction path generalizing p with
  | here code => exact .inl ⟨p, .here p, whole.symm⟩
  | request path ih =>
    cases p with
    | done round => cases round <;> cases whole
    | request r next =>
      cases whole
      obtain ⟨code, left, same⟩ | ⟨state, first, second, rfl, left, going⟩ := ih rfl
      · exact .inl ⟨code, .request left, same⟩
      · exact .inr ⟨state, _ :: first, second, rfl, .request left, going⟩
    | loop other start next => cases whole
  | loop path ih =>
    cases p with
    | done round =>
      cases round with
      | inl state =>
        cases whole
        refine .inr ⟨state, [], _, rfl, .here _, ?_⟩
        obtain ⟨code, left, rfl⟩ | ⟨next, first, second, rfl, left, going⟩ := ih unroll_eq_bind.symm
        · exact last _ _ _ left
        · exact more _ _ _ _ _ left going
      | inr b => cases whole
    | request r next => cases whole
    | loop other start next =>
      cases whole
      obtain ⟨code, left, same⟩ | ⟨state, first, second, rfl, left, going⟩ :=
        ih (unroll_bind _ _ next _)
      · exact .inl ⟨code, .loop left, same⟩
      · exact .inr ⟨state, first, second, rfl, .loop left, going⟩

/-- What every round hands back to the one before it holds of the whole loop, once it has begun. -/
theorem holds_of_path {rest : Program ρ β} (path : Path (unroll body start .done) trace rest) :
    holds start trace rest := by
  rw [unroll_eq_bind] at path
  obtain ⟨code, left, rfl⟩ | ⟨state, first, second, rfl, left, going⟩ := holds_of_bind holds last more path
  · exact last _ _ _ left
  · exact more _ _ _ _ _ left going

end

theorem Turns.path (turns : Turns body start trace result) :
    Path (repeating start body) trace (.done result) := by
  induction turns with
  | @last x trace b path =>
    refine .loop ?_
    rw [unroll_eq_bind, ← List.append_nil trace]
    exact .bind path (.here _)
  | more path _ ih =>
    refine .loop ?_
    rw [unroll_eq_bind]
    exact .bind path ih

theorem path_repeating_iff :
    Path (repeating start body) trace (.done result) ↔ Turns body start trace result := by
  refine ⟨fun path => ?_, Turns.path⟩
  have ended {code : Program ρ (ς ⊕ β)} (same : code.bind (ahead body) = .done result) :
      code = .done (.inr result) := by
    cases code with
    | done round =>
      cases round with
      | inl state => cases same
      | inr b =>
        cases same
        rfl
    | request r next => cases same
    | loop other state next => cases same
  cases path with
  | loop path =>
    exact holds_of_path (fun x trace rest => rest = .done result → Turns body x trace result)
      (fun _ _ _ path same => .last (ended same ▸ path))
      (fun _ _ _ _ _ path later same => .more path (later same)) path rfl

/-- The rounds of a loop, one after another, up to one that may be under way. -/
inductive Begun (body : ς → Program ρ (ς ⊕ β)) : ς → List (Exchange ρ) → Prop where
  | last {x : ς} {trace : List (Exchange ρ)} {code : Program ρ (ς ⊕ β)} :
      Path (body x) trace code → Begun body x trace
  | more {x y : ς} {first rest : List (Exchange ρ)} :
      Path (body x) first (.done (.inl y)) → Begun body y rest → Begun body x (first ++ rest)

theorem exists_path_repeating_iff :
    (∃ rest, Path (repeating start body) trace rest) ↔ Begun body start trace := by
  constructor
  · rintro ⟨rest, path⟩
    cases path with
    | here => exact .last (.here _)
    | loop path =>
      exact holds_of_path (fun x trace _ => Begun body x trace) (fun _ _ _ path => .last path)
        (fun _ _ _ _ _ path later => .more path later) path
  · intro begun
    induction begun with
    | last path =>
      have whole := path.bind_left (ahead body)
      rw [← unroll_eq_bind] at whole
      exact ⟨_, .loop whole⟩
    | more path _ ih =>
      obtain ⟨rest, later⟩ := ih
      have whole := path.bind (f := ahead body) later
      rw [← unroll_eq_bind] at whole
      exact ⟨_, .loop whole⟩

theorem path_map_iff {α γ : Type} {p : Program ρ α} {h : α → γ} {c : γ} :
    Path (p.bind fun a => .done (h a)) trace (.done c) ↔ ∃ a, Path p trace (.done a) ∧ h a = c := by
  constructor
  · intro path
    obtain ⟨a, first, second, rfl, left, ended⟩ := Path.of_bind path
    obtain ⟨rfl, rfl⟩ := Path.of_done ended
    exact ⟨a, by rwa [List.append_nil], rfl⟩
  · rintro ⟨a, path, rfl⟩
    rw [← List.append_nil trace]
    exact path.bind (.here _)

theorem Turns.map_iff {ς' β' : Type} {other : ς' → Program ρ (ς' ⊕ β')} (f : ς → ς') (g : β → β')
    (distinct : ∀ a b, g a = g b → a = b)
    (rounds : ∀ x, other (f x) = (body x).bind fun round => .done (round.map f g)) (start : ς) :
    Turns other (f start) trace (g result) ↔ Turns body start trace result := by
  constructor
  · intro turns
    -- Two states may have one name, so the renamed loop is followed from a state that is known.
    generalize begun : f start = x at turns
    generalize ended : g result = c at turns
    induction turns generalizing start with
    | last path =>
      subst begun ended
      rw [rounds, path_map_iff] at path
      obtain ⟨_ | b, path, same⟩ := path
      · cases same
      · obtain rfl := distinct _ _ (Sum.inr.inj same)
        exact .last path
    | more path _ ih =>
      subst begun
      rw [rounds, path_map_iff] at path
      obtain ⟨state | _, path, same⟩ := path
      · cases same
        exact .more path (ih state rfl ended)
      · cases same
  · intro turns
    induction turns with
    | last path =>
      refine .last ?_
      rw [rounds]
      exact path_map_iff.mpr ⟨_, path, rfl⟩
    | more path _ ih =>
      refine .more ?_ ih
      rw [rounds]
      exact path_map_iff.mpr ⟨_, path, rfl⟩

theorem Begun.map_iff {ς' β' : Type} {other : ς' → Program ρ (ς' ⊕ β')} (f : ς → ς') (g : β → β')
    (rounds : ∀ x, other (f x) = (body x).bind fun round => .done (round.map f g)) (start : ς) :
    Begun other (f start) trace ↔ Begun body start trace := by
  constructor
  · intro begun
    generalize same : f start = x at begun
    induction begun generalizing start with
    | last path =>
      subst same
      rw [rounds] at path
      obtain ⟨rest, left, -⟩ | ⟨round, first, second, rfl, left, ended⟩ := path.bind_cases
      · exact .last left
      · cases ended
        rw [List.append_nil]
        exact .last left
    | more path _ ih =>
      subst same
      rw [rounds, path_map_iff] at path
      obtain ⟨state | _, path, same⟩ := path
      · cases same
        exact .more path (ih state rfl)
      · cases same
  · intro begun
    induction begun with
    | last path =>
      have round := path.bind_left fun round => .done (round.map f g)
      rw [← rounds] at round
      exact .last round
    | more path _ ih =>
      refine .more ?_ ih
      rw [rounds]
      exact path_map_iff.mpr ⟨_, path, rfl⟩

end ClusterBackup.Program
