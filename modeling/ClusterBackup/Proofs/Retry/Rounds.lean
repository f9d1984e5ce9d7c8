import ClusterBackup.Proofs.Program.Repeating
import ClusterBackup.Retry

/-! What an operation has exchanged that is repeated after conflicts or after any failure, round by
round. The two loops differ in the failures after which they go on, and in what is the result when
the calls are used up. -/

set_option autoImplicit false

namespace ClusterBackup

open Program

variable {ρ : Type → Type} [Timed ρ] {α μ : Type}

section

variable (policy : RetryPolicy)

/-- Calls of an operation with these outcomes, which are numbered without gaps. Each call has what the
one before it handed on, and there is one sleep between the two. -/
inductive Calls (operation : Nat → μ → Program ρ (Except Failure α × μ)) :
    Nat → Duration → μ → List (Except Failure α) → List (Exchange ρ) → μ → Prop where
  | last {n : Nat} {delay : Duration} {before after : μ} {outcome : Except Failure α}
      {trace : List (Exchange ρ)} :
      Path (operation n before) trace (.done (outcome, after)) →
      Calls operation n delay before [outcome] trace after
  | more {n : Nat} {delay : Duration} {before between after : μ} {outcome : Except Failure α}
      {outcomes : List (Except Failure α)} {first rest : List (Exchange ρ)} :
      Path (operation n before) first (.done (outcome, between)) →
      Calls operation (n + 1) (policy.after delay) between outcomes rest after →
      Calls operation n delay before (outcome :: outcomes)
        (first ++ ⟨Timed.sleep delay, ()⟩ :: rest) after

variable (again : Failure → Bool) (spent : Failure → Nat → Failure)

def attemptRound (operation : Nat → μ → Program ρ (Except Failure α × μ)) :
    Nat × Duration × μ → Program ρ ((Nat × Duration × μ) ⊕ (Except Failure α × μ)) :=
  fun (attempt, delay, memory) => do
    match ← operation attempt memory with
    | (.ok a, memory) => return .inr (.ok a, memory)
    | (.error failure, memory) =>
      if ! again failure then return .inr (.error failure, memory)
      else if policy.isExhausted attempt then return .inr (.error (spent failure attempt), memory)
      else
        ask (Timed.sleep delay)
        return .inl (attempt + 1, policy.after delay, memory)

/-- What the outcomes of calls come to, which are numbered from some number on. -/
inductive Concluded : Nat → List (Except Failure α) → Except Failure α → Prop where
  | done {n : Nat} {a : α} : Concluded n [.ok a] (.ok a)
  | failed {n : Nat} {failure : Failure} :
      again failure = false → Concluded n [.error failure] (.error failure)
  | spent {n : Nat} {failure : Failure} :
      again failure = true → policy.isExhausted n = true →
      Concluded n [.error failure] (.error (spent failure n))
  | more {n : Nat} {failure : Failure} {outcomes : List (Except Failure α)}
      {result : Except Failure α} :
      again failure = true → policy.isExhausted n = false → Concluded (n + 1) outcomes result →
      Concluded n (.error failure :: outcomes) result

end

section

variable {policy : RetryPolicy} {again : Failure → Bool} {spent : Failure → Nat → Failure}
  {operation : Nat → μ → Program ρ (Except Failure α × μ)} {n : Nat} {delay : Duration}
  {before last : μ} {trace : List (Exchange ρ)} {result : Except Failure α}

theorem of_attemptRound {round : (Nat × Duration × μ) ⊕ (Except Failure α × μ)}
    (path : Path (attemptRound policy again spent operation (n, delay, before)) trace (.done round)) :
    ∃ outcome after called, Path (operation n before) called (.done (outcome, after)) ∧
      ((∃ result, trace = called ∧ round = .inr (result, after) ∧
          Concluded policy again spent n [outcome] result) ∨
        ∃ failure, outcome = .error failure ∧ again failure = true ∧
          policy.isExhausted n = false ∧ trace = called ++ [⟨Timed.sleep delay, ()⟩] ∧
          round = .inl (n + 1, policy.after delay, after)) := by
  obtain ⟨⟨outcome, after⟩, called, closing, rfl, attempt, ended⟩ := Path.of_bind path
  refine ⟨outcome, after, called, attempt, ?_⟩
  rcases outcome with failure | a
  · by_cases goes : again failure = true
    · by_cases full : policy.isExhausted n = true
      · simp only [goes, full] at ended
        obtain ⟨rfl, rfl⟩ := Path.of_done ended
        exact .inl ⟨_, List.append_nil _, rfl, .spent goes full⟩
      · simp only [goes, full] at ended
        obtain ⟨_, _, _, rfl, slept, next⟩ := Path.of_bind ended
        obtain rfl := Path.of_ask slept
        obtain ⟨rfl, rfl⟩ := Path.of_done next
        exact .inr ⟨failure, rfl, goes, Bool.eq_false_iff.mpr full, rfl, rfl⟩
    · simp only [goes] at ended
      obtain ⟨rfl, rfl⟩ := Path.of_done ended
      exact .inl ⟨_, List.append_nil _, rfl, .failed (Bool.eq_false_iff.mpr goes)⟩
  · obtain ⟨rfl, rfl⟩ := Path.of_done ended
    exact .inl ⟨_, List.append_nil _, rfl, .done⟩

theorem Concluded.path {outcome : Except Failure α}
    (concluded : Concluded policy again spent n [outcome] result)
    (called : Path (operation n before) trace (.done (outcome, last))) :
    Path (attemptRound policy again spent operation (n, delay, before)) trace
      (.done (.inr (result, last))) := by
  rw [← List.append_nil trace]
  refine Path.bind called ?_
  cases concluded with
  | done => exact .here _
  | failed ends =>
    simp only [ends]
    exact .here _
  | spent goes full =>
    simp only [goes, full]
    exact .here _
  | more _ _ later => cases later

theorem path_attemptRound {failure : Failure} (goes : again failure = true)
    (room : policy.isExhausted n = false)
    (called : Path (operation n before) trace (.done (.error failure, last))) :
    Path (attemptRound policy again spent operation (n, delay, before))
      (trace ++ [⟨Timed.sleep delay, ()⟩]) (.done (.inl (n + 1, policy.after delay, last))) := by
  refine Path.bind called ?_
  simp only [goes, room]
  exact .request (.here _)

theorem turns_attemptRound_iff :
    Turns (attemptRound policy again spent operation) (n, delay, before) trace (result, last) ↔
      ∃ outcomes, Calls policy operation n delay before outcomes trace last ∧
        Concluded policy again spent n outcomes result := by
  constructor
  · intro turns
    generalize started : (n, delay, before) = start at turns
    generalize ended : (result, last) = ending at turns
    induction turns generalizing n delay before with
    | last path =>
      subst started ended
      obtain ⟨outcome, after, called, attempt, ⟨_, rfl, same, concluded⟩ | ⟨_, _, _, _, _, next⟩⟩ :=
        of_attemptRound path
      · cases same
        exact ⟨[outcome], .last attempt, concluded⟩
      · cases next
    | @more _ _ first rest _ path _ ih =>
      subst started
      obtain ⟨_, after, called, attempt, ⟨_, _, same, _⟩ | ⟨failure, rfl, goes, room, rfl, next⟩⟩ :=
        of_attemptRound path
      · cases same
      · cases next
        obtain ⟨outcomes, calls, concluded⟩ := ih rfl ended
        refine ⟨_ :: outcomes, ?_, .more goes room concluded⟩
        rw [List.append_assoc]
        exact .more attempt calls
  · rintro ⟨outcomes, calls, concluded⟩
    induction calls with
    | last called => exact .last (concluded.path called)
    | @more n delay before between after outcome outcomes first rest called calls ih =>
      cases concluded with
      | done => cases calls
      | failed => cases calls
      | spent => cases calls
      | more goes room later =>
        rw [List.append_cons]
        exact .more (path_attemptRound goes room called) (ih later)

end

theorem retryConflicts_eq (policy : RetryPolicy) (name : String) (memory : μ)
    (operation : Nat → μ → Program ρ (Except Failure α × μ)) :
    retryConflicts policy name memory operation = repeating (1, policy.initial, memory)
      (attemptRound policy Failure.isConflict (fun _ n => .exhausted name n) operation) := rfl

/-- The rounds from an attempt on. Every one but the last ends in a conflict, and the program
sleeps before the next one. -/
inductive Rounds (policy : RetryPolicy) (name : String)
    (operation : Nat → μ → Program ρ (Except Failure α × μ)) :
    Nat → Duration → μ → List (Exchange ρ) → Except Failure α × μ → Prop where
  | done {n : Nat} {delay : Duration} {before after : μ} {trace : List (Exchange ρ)} {a : α} :
      Path (operation n before) trace (.done (.ok a, after)) →
      Rounds policy name operation n delay before trace (.ok a, after)
  | failed {n : Nat} {delay : Duration} {before after : μ} {trace : List (Exchange ρ)}
      {failure : Failure} :
      Path (operation n before) trace (.done (.error failure, after)) →
      failure.isConflict = false →
      Rounds policy name operation n delay before trace (.error failure, after)
  | spent {n : Nat} {delay : Duration} {before after : μ} {trace : List (Exchange ρ)}
      {failure : Failure} :
      Path (operation n before) trace (.done (.error failure, after)) →
      failure.isConflict = true → policy.isExhausted n = true →
      Rounds policy name operation n delay before trace (.error (.exhausted name n), after)
  | again {n : Nat} {delay : Duration} {before between : μ} {first rest : List (Exchange ρ)}
      {failure : Failure} {result : Except Failure α × μ} :
      Path (operation n before) first (.done (.error failure, between)) →
      failure.isConflict = true → policy.isExhausted n = false →
      Rounds policy name operation (n + 1) (policy.after delay) between rest result →
      Rounds policy name operation n delay before (first ++ ⟨Timed.sleep delay, ()⟩ :: rest) result

theorem Rounds.of_calls {policy : RetryPolicy} {name : String}
    {operation : Nat → μ → Program ρ (Except Failure α × μ)} {n : Nat} {delay : Duration}
    {before after : μ} {outcomes : List (Except Failure α)} {trace : List (Exchange ρ)}
    {result : Except Failure α}
    (calls : Calls policy operation n delay before outcomes trace after)
    (concluded : Concluded policy Failure.isConflict (fun _ n => .exhausted name n) n outcomes result) :
    Rounds policy name operation n delay before trace (result, after) := by
  induction calls with
  | last called =>
    cases concluded with
    | done => exact .done called
    | failed ends => exact .failed called ends
    | spent goes full => exact .spent called goes full
    | more _ _ later => cases later
  | more called calls ih =>
    cases concluded with
    | done => cases calls
    | failed => cases calls
    | spent => cases calls
    | more goes room later => exact .again called goes room (ih later)

theorem Rounds.of_path {policy : RetryPolicy} {name : String}
    {operation : Nat → μ → Program ρ (Except Failure α × μ)} {memory : μ}
    {trace : List (Exchange ρ)} {result : Except Failure α × μ}
    (path : Path (retryConflicts policy name memory operation) trace (.done result)) :
    Rounds policy name operation 1 policy.initial memory trace result := by
  obtain ⟨outcome, last⟩ := result
  rw [retryConflicts_eq, path_repeating_iff] at path
  obtain ⟨outcomes, calls, concluded⟩ := turns_attemptRound_iff.mp path
  exact .of_calls calls concluded

theorem Rounds.of_error {policy : RetryPolicy} {name : String}
    {operation : Nat → μ → Program ρ (Except Failure α × μ)} {memory after : μ} {n : Nat}
    {delay : Duration} {trace : List (Exchange ρ)} {failure : Failure} {last : Exchange ρ → Prop}
    (rounds : Rounds policy name operation n delay memory trace (.error failure, after))
    (attempts : ∀ n before trace failure after,
      Path (operation n before) trace (.done (.error failure, after)) →
        ∃ earlier e, trace = earlier ++ [e] ∧ last e) :
    ∃ earlier e, trace = earlier ++ [e] ∧ last e := by
  generalize ended : ((.error failure, after) : Except Failure α × μ) = result at rounds
  induction rounds with
  | done => cases ended
  | failed attempt => exact attempts _ _ _ _ _ attempt
  | spent attempt => exact attempts _ _ _ _ _ attempt
  | @again _ delay _ _ first rest _ _ _ _ _ _ ih =>
    obtain ⟨earlier, e, rfl, broken⟩ := ih ended
    exact ⟨first ++ ⟨Timed.sleep delay, ()⟩ :: earlier, e, by simp, broken⟩

end ClusterBackup
