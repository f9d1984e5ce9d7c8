import ClusterBackup.Proofs.Retry.Outcomes
import ClusterBackup.Proofs.Time.Floating
import Mathlib.Algebra.Group.Action.Defs
import Mathlib.Data.List.Iterate

/-! How long is waited between the calls of an operation that is repeated.

The first pause is the initial delay as it is, and every later one has gone through floating point,
where the longest delay is its bound. -/

set_option autoImplicit false

namespace ClusterBackup

open Number Program

/-! ### Delays -/

namespace Duration

/-- The nanoseconds that a duration has after it was a floating point number. -/
def refloated (d : Duration) : Nat :=
  match d.toFloating with
  | none => d.nanos
  | some x => roundQuotient (x.numerator * 1000000000) x.denominator

theorem exists_floating {d : Duration} {k : Nat} (short : d.seconds < 2 ^ k) (bounded : k ≤ 53) :
    ∃ x, d.toFloating = some x ∧ |((x.numerator * 1000000000 : Nat) : ℚ) / x.denominator - d.nanos| ≤
      1000000000 * (2 ^ ((k : Int) - 54) + 2 ^ (-54 : Int)) := by
  obtain ⟨x, converted, near⟩ := toFloating_of_lt short bounded
  have shifted : ((x.numerator * 1000000000 : Nat) : ℚ) / x.denominator - d.nanos =
      1000000000 * (x.value - d.nanos / 1000000000) := by
    rw [Binary64.value_eq]
    push_cast
    ring
  refine ⟨x, converted, ?_⟩
  rw [shifted, abs_mul, abs_of_pos (by norm_num)]
  exact mul_le_mul_of_nonneg_left near (by norm_num)

theorem refloated_near {d : Duration} {k : Nat} (short : d.seconds < 2 ^ k) (bounded : k ≤ 53) :
    |(d.refloated : ℚ) - d.nanos| ≤ 1000000000 * (2 ^ ((k : Int) - 54) + 2 ^ (-54 : Int)) + 1 / 2 := by
  obtain ⟨x, converted, near⟩ := exists_floating short bounded
  have rounded := roundQuotient_near (x.numerator * 1000000000) x.denominator_pos
  simp only [refloated, converted]
  calc |(roundQuotient (x.numerator * 1000000000) x.denominator : ℚ) - d.nanos|
      ≤ |(roundQuotient (x.numerator * 1000000000) x.denominator : ℚ) -
          (x.numerator * 1000000000 : Nat) / x.denominator| +
        |((x.numerator * 1000000000 : Nat) : ℚ) / x.denominator - d.nanos| := abs_sub_le _ _ _
    _ ≤ 1 / 2 + 1000000000 * (2 ^ ((k : Int) - 54) + 2 ^ (-54 : Int)) := add_le_add rounded near
    _ = _ := add_comm _ _

theorem refloated_eq {d : Duration} (short : d.seconds < 2 ^ 23) : d.refloated = d.nanos := by
  obtain ⟨x, converted, near⟩ := exists_floating short (by decide)
  have small : (1000000000 : ℚ) * (2 ^ ((23 : Nat) - 54 : Int) + 2 ^ (-54 : Int)) < 1 / 2 := by norm_num
  simp only [refloated, converted]
  exact roundQuotient_eq_of_near x.denominator_pos (near.trans_lt small)

end Duration

namespace RetryPolicy

variable (p : RetryPolicy)

def ceiling : Nat := max p.longest.nanos p.longest.refloated

def pauses (count : Nat) : List Duration := List.iterate p.after p.initial count

variable {p}

theorem after_cases (p : RetryPolicy) (delay : Duration) : p.after delay = p.longest ∨
    ∃ x longest, p.longest.toFloating = some longest ∧ x.le longest = true ∧
      Duration.ofFloating x = some (p.after delay) := by
  unfold after
  simp only [Option.bind_eq_bind]
  generalize chosen : (p.longest.toFloating.bind fun longest => delay.toFloating.bind fun current =>
    Duration.ofFloating (Binary64.minimum (p.multiplier.bind current.mul) longest)) = next
  cases next with
  | none => exact .inl rfl
  | some d =>
    obtain ⟨longest, converted, chosen⟩ := Option.bind_eq_some_iff.mp chosen
    obtain ⟨current, -, chosen⟩ := Option.bind_eq_some_iff.mp chosen
    exact .inr ⟨_, longest, converted, Binary64.minimum_le _ longest, chosen⟩

theorem after_le_ceiling (p : RetryPolicy) (delay : Duration) : (p.after delay).nanos ≤ p.ceiling := by
  obtain same | ⟨x, longest, converted, le, chosen⟩ := p.after_cases delay
  · rw [same]
    exact le_max_left _ _
  · obtain ⟨same, -⟩ := Duration.checked_eq_some_iff.mp chosen
    refine le_max_of_le_right ?_
    simp only [same, Duration.refloated, converted]
    refine roundQuotient_le_roundQuotient x.denominator_pos longest.denominator_pos ?_
    have bound := Nat.mul_le_mul_right 1000000000 (of_decide_eq_true le)
    rwa [Nat.mul_right_comm, Nat.mul_right_comm longest.numerator] at bound

theorem ceiling_near (p : RetryPolicy) {k : Nat} (short : p.longest.seconds < 2 ^ k) (bounded : k ≤ 53) :
    (p.ceiling : ℚ) ≤
      p.longest.nanos + (1000000000 * (2 ^ ((k : Int) - 54) + 2 ^ (-54 : Int)) + 1 / 2) := by
  have near := Duration.refloated_near short bounded
  rw [ceiling, Nat.cast_max, max_le_iff]
  refine ⟨le_add_of_nonneg_right ((abs_nonneg _).trans near), ?_⟩
  linarith [le_abs_self ((p.longest.refloated : ℚ) - p.longest.nanos)]

theorem ceiling_eq (p : RetryPolicy) (short : p.longest.seconds < 2 ^ 23) :
    p.ceiling = p.longest.nanos := by
  rw [ceiling, Duration.refloated_eq short, max_self]

theorem forall_mem_iterate_le (p : RetryPolicy) {limit : Nat} (bound : p.ceiling ≤ limit) {delay : Duration}
    (first : delay.nanos ≤ limit) (count : Nat) :
    ∀ pause ∈ List.iterate p.after delay count, pause.nanos ≤ limit := by
  induction count generalizing delay with
  | zero => exact List.forall_mem_nil _
  | succ count ih =>
    exact List.forall_mem_cons.mpr ⟨first, ih ((p.after_le_ceiling delay).trans bound)⟩

theorem tail_pauses_le (p : RetryPolicy) (count : Nat) :
    ∀ pause ∈ (p.pauses count).tail, pause.nanos ≤ p.ceiling := by
  cases count with
  | zero => exact List.forall_mem_nil _
  | succ count => exact p.forall_mem_iterate_le (Nat.le_refl _) (p.after_le_ceiling _) count

theorem sum_pauses_le (p : RetryPolicy) (count : Nat) :
    ((p.pauses (count + 1)).map (·.nanos)).sum ≤ p.initial.nanos + count * p.ceiling := by
  have split : p.pauses (count + 1) = p.initial :: List.iterate p.after (p.after p.initial) count := rfl
  have later := List.sum_le_card_nsmul
    ((List.iterate p.after (p.after p.initial) count).map (·.nanos)) p.ceiling
    (List.forall_mem_map.mpr (p.tail_pauses_le (count + 1)))
  rw [List.length_map, List.length_iterate, smul_eq_mul] at later
  rw [split, List.map_cons, List.sum_cons]
  exact Nat.add_le_add_left later _

/-- Where the ceiling is the longest delay, that is the bound of all pauses if it is that of the first. -/
theorem forall_pauses_le_iff (p : RetryPolicy) (kept : p.ceiling = p.longest.nanos) :
    (∀ count, (p.attempts = 0 ∨ count < p.attempts) →
      ∀ pause ∈ p.pauses count, pause.nanos ≤ p.longest.nanos) ↔
    p.attempts = 1 ∨ p.initial.nanos ≤ p.longest.nanos := by
  constructor
  · intro bounded
    rw [or_iff_not_imp_left]
    intro several
    exact bounded 1 (by omega) p.initial List.mem_cons_self
  · rintro (single | first) count feasible
    · obtain rfl : count = 0 := by omega
      exact List.forall_mem_nil _
    · exact p.forall_mem_iterate_le kept.le first count

end RetryPolicy

/-! ### Pauses -/

variable {ρ : Type → Type} [Timed ρ] {α μ : Type}

/-- Calls of an operation with these pauses between them. Each call but the last one has failed in such
a way that there is another one, and the last one may be under way. -/
inductive Spaced (again : Failure → Bool) (operation : Nat → μ → Program ρ (Except Failure α × μ)) :
    Nat → μ → List Duration → List (Exchange ρ) → Prop where
  | last {n : Nat} {before : μ} {trace : List (Exchange ρ)} {code : Program ρ (Except Failure α × μ)} :
      Path (operation n before) trace code → Spaced again operation n before [] trace
  | more {n : Nat} {before between : μ} {failure : Failure} {pause : Duration} {pauses : List Duration}
      {first rest : List (Exchange ρ)} :
      Path (operation n before) first (.done (.error failure, between)) → again failure = true →
      Spaced again operation (n + 1) between pauses rest →
      Spaced again operation n before (pause :: pauses) (first ++ ⟨Timed.sleep pause, ()⟩ :: rest)

section

variable {policy : RetryPolicy} {again : Failure → Bool} {spent : Failure → Nat → Failure}
  {operation : Nat → μ → Program ρ (Except Failure α × μ)} {n : Nat} {delay : Duration}
  {before : μ} {trace : List (Exchange ρ)}

theorem of_attemptRound_begun {code : Program ρ ((Nat × Duration × μ) ⊕ (Except Failure α × μ))}
    (path : Path (attemptRound policy again spent operation (n, delay, before)) trace code) :
    (∃ rest, Path (operation n before) trace rest) ∨
      ∃ failure after called, Path (operation n before) called (.done (.error failure, after)) ∧
        again failure = true ∧ policy.isExhausted n = false ∧
        trace = called ++ [⟨Timed.sleep delay, ()⟩] := by
  obtain ⟨rest, path, -⟩ | ⟨⟨outcome, after⟩, called, closing, rfl, attempt, path⟩ := Path.bind_cases path
  · exact .inl ⟨rest, path⟩
  have silent (quiet : closing = []) : ∃ rest, Path (operation n before) (called ++ closing) rest := by
    rw [quiet, List.append_nil]
    exact ⟨_, attempt⟩
  rcases outcome with failure | a
  · by_cases goes : again failure = true
    · by_cases full : policy.isExhausted n = true
      · simp only [goes, full] at path
        cases path
        exact .inl (silent rfl)
      · simp only [goes, full] at path
        cases path with
        | here => exact .inl (silent rfl)
        | request path =>
          cases path
          exact .inr ⟨failure, after, called, attempt, goes, Bool.eq_false_iff.mpr full, rfl⟩
    · simp only [goes] at path
      cases path
      exact .inl (silent rfl)
  · cases path
    exact .inl (silent rfl)

theorem RetryPolicy.isExhausted_eq_false_iff :
    policy.isExhausted n = false ↔ policy.attempts = 0 ∨ n + 1 ≤ policy.attempts := by
  simp only [isExhausted, Bool.and_eq_false_iff, decide_eq_false_iff_not]
  omega

theorem begun_attemptRound_iff (room : policy.attempts = 0 ∨ n ≤ policy.attempts) :
    Begun (attemptRound policy again spent operation) (n, delay, before) trace ↔
      ∃ count, (policy.attempts = 0 ∨ n + count ≤ policy.attempts) ∧
        Spaced again operation n before (List.iterate policy.after delay count) trace := by
  constructor
  · intro begun
    generalize same : (n, delay, before) = x at begun
    induction begun generalizing n delay before with
    | last path =>
      subst same
      obtain ⟨rest, path⟩ | ⟨failure, after, called, attempt, goes, free, rfl⟩ := of_attemptRound_begun path
      · exact ⟨0, room, .last path⟩
      · exact ⟨1, RetryPolicy.isExhausted_eq_false_iff.mp free,
          .more attempt goes (.last (.here _))⟩
    | more path _ ih =>
      subst same
      obtain ⟨outcome, after, called, attempt, ⟨_, _, same, _⟩ | ⟨failure, rfl, goes, free, rfl, same⟩⟩ :=
        of_attemptRound path
      · cases same
      · cases same
        obtain ⟨count, bounded, spaced⟩ :=
          ih (RetryPolicy.isExhausted_eq_false_iff.mp free) rfl
        refine ⟨count + 1, by omega, ?_⟩
        rw [List.append_assoc]
        exact .more attempt goes spaced
  · rintro ⟨count, bounded, spaced⟩
    -- Every pause comes from a round that went on, and each round has the next delay.
    induction count generalizing n delay before trace with
    | zero =>
      cases spaced with
      | last path => exact .last (path.bind_left _)
    | succ count ih =>
      cases spaced with
      | more attempt goes spaced =>
        have free := RetryPolicy.isExhausted_eq_false_iff.mpr (show policy.attempts = 0 ∨ n + 1 ≤ policy.attempts by omega)
        rw [List.append_cons]
        exact .more (path_attemptRound goes free attempt)
          (ih (by omega) (by omega) spaced)

end

/-- A program can have made just these exchanges: calls with the policy's delays between them, of which
there are fewer than attempts. -/
def Paces (policy : RetryPolicy) (again : Failure → Bool)
    (operation : Nat → μ → Program ρ (Except Failure α × μ)) (memory : μ) {β : Type}
    (program : Program ρ β) : Prop :=
  ∀ trace, (∃ rest, Path program trace rest) ↔
    ∃ count, (policy.attempts = 0 ∨ count < policy.attempts) ∧
      Spaced again operation 1 memory (policy.pauses count) trace

theorem paces_iff {policy : RetryPolicy} {again : Failure → Bool} {spent : Failure → Nat → Failure}
    {operation : Nat → μ → Program ρ (Except Failure α × μ)} {memory : μ} {trace : List (Exchange ρ)} :
    Begun (attemptRound policy again spent operation) (1, policy.initial, memory) trace ↔
      ∃ count, (policy.attempts = 0 ∨ count < policy.attempts) ∧
        Spaced again operation 1 memory (policy.pauses count) trace := by
  rw [begun_attemptRound_iff (by omega)]
  simp only [Nat.one_add_le_iff, RetryPolicy.pauses]

theorem paces_retryConflicts (policy : RetryPolicy) (name : String) (memory : μ)
    (operation : Nat → μ → Program ρ (Except Failure α × μ)) :
    Paces policy Failure.isConflict operation memory (retryConflicts policy name memory operation) := by
  intro trace
  rw [retryConflicts_eq, exists_path_repeating_iff, paces_iff]

theorem paces_retryAlways (policy : RetryPolicy) (operation : Program ρ (Except Failure α)) :
    Paces policy (fun _ => true) (unnumbered operation) () (retryAlways policy operation) := by
  intro trace
  rw [retryAlways_eq, exists_path_repeating_iff, ← paces_iff]
  exact (Begun.map_iff _ _ (attemptRound_unnumbered policy operation) (1, policy.initial)).symm

/-- The loops make calls with the policy's delays between them, and nothing else. The first delay is the
initial one, however long it is. Every later one is bounded by the longest delay as floating point
rounds it, which makes no difference below ninety-seven days. So all pauses are bounded by the longest
delay just if there are none or the initial delay is no longer. -/
theorem retries_paced (policy : RetryPolicy) (name : String) (memory : μ)
    (operation : Nat → μ → Program ρ (Except Failure α × μ)) (plain : Program ρ (Except Failure α)) :
    Paces policy Failure.isConflict operation memory (retryConflicts policy name memory operation) ∧
    Paces policy (fun _ => true) (unnumbered plain) () (retryAlways policy plain) ∧
    (∀ count, (policy.pauses (count + 1)).head? = some policy.initial ∧
      (∀ pause ∈ (policy.pauses (count + 1)).tail, pause.nanos ≤ policy.ceiling) ∧
      ((policy.pauses (count + 1)).map (·.nanos)).sum ≤ policy.initial.nanos + count * policy.ceiling) ∧
    (∀ k : Nat, k ≤ 53 → policy.longest.seconds < 2 ^ k → (policy.ceiling : ℚ) ≤
      policy.longest.nanos + (1000000000 * (2 ^ ((k : Int) - 54) + 2 ^ (-54 : Int)) + 1 / 2)) ∧
    (policy.longest.seconds < 2 ^ 23 → policy.ceiling = policy.longest.nanos) ∧
    (policy.ceiling = policy.longest.nanos →
      ((∀ count, (policy.attempts = 0 ∨ count < policy.attempts) →
        ∀ pause ∈ policy.pauses count, pause.nanos ≤ policy.longest.nanos) ↔
      policy.attempts = 1 ∨ policy.initial.nanos ≤ policy.longest.nanos)) := by
  refine ⟨paces_retryConflicts policy name memory operation, paces_retryAlways policy plain,
    fun count => ⟨rfl, policy.tail_pauses_le (count + 1), policy.sum_pauses_le count⟩,
    fun _ bounded short => policy.ceiling_near short bounded, policy.ceiling_eq, policy.forall_pauses_le_iff⟩

/-- The initial delay is longer than the longest one. -/
def impatient : RetryPolicy := ⟨3, .ofSeconds 1, .ofMillis 10, some .one⟩

theorem retries_paced_impatient :
    (∃ rest, Path (retryConflicts (ρ := Request) impatient "renew" () fun n _ =>
        .done (if n < 2 then .error (.conflict "stale") else .ok n, ()))
      [⟨Request.sleep (.ofSeconds 1), ()⟩] rest) ∧
    impatient.ceiling = (Duration.ofMillis 10).nanos ∧
    ¬ ∀ count, (impatient.attempts = 0 ∨ count < impatient.attempts) →
      ∀ pause ∈ impatient.pauses count, pause.nanos ≤ impatient.longest.nanos := by
  let renew (n : Nat) (_ : Unit) : Program Request (Except Failure Nat × Unit) :=
    .done (if n < 2 then .error (.conflict "stale") else .ok n, ())
  have stale : Path (renew 1 ()) [] (.done (.error (.conflict "stale"), ())) := .here _
  obtain ⟨conflicts, -, -, -, short, bounded⟩ :=
    retries_paced impatient "renew" () renew (.done (.ok 0))
  have kept : impatient.ceiling = (Duration.ofMillis 10).nanos := short (by decide)
  refine ⟨(conflicts _).mpr ⟨1, .inr (by decide), .more stale rfl (.last (.here _))⟩, kept, fun all => ?_⟩
  exact absurd ((bounded kept).mp all) (by decide)

end ClusterBackup
