import ClusterBackup.Proofs.Retry.Rounds
import Mathlib.Data.Nat.Find
import Mathlib.Logic.ExistsUnique

/-! What an operation comes to that is repeated, whatever the outcomes of its calls are.

The outcomes alone determine how many calls there are and what the result is. -/

set_option autoImplicit false

namespace ClusterBackup

open Program

variable {ρ : Type → Type} [Timed ρ] {α μ : Type}

/-- What the outcomes of all calls come to when at most so many are made, or any number of them with
the limit 0. After an outcome that is `again` there is another call. -/
inductive Concludes (limit : Nat) (again : Except Failure α → Prop)
    (spent : Except Failure α → Except Failure α) :
    List (Except Failure α) → Except Failure α → Prop where
  | returned {earlier : List (Except Failure α)} {final : Except Failure α} :
      (∀ outcome ∈ earlier, again outcome) → ¬ again final → (0 < limit → earlier.length < limit) →
      Concludes limit again spent (earlier ++ [final]) final
  | spent {earlier : List (Except Failure α)} {final : Except Failure α} :
      (∀ outcome ∈ earlier ++ [final], again outcome) → (earlier ++ [final]).length = limit →
      Concludes limit again spent (earlier ++ [final]) (spent final)

namespace Concludes

variable {limit : Nat} {again : Except Failure α → Prop}
  {spent : Except Failure α → Except Failure α} {outcome result : Except Failure α}
  {outcomes : List (Except Failure α)}

theorem not_nil : ¬ Concludes limit again spent [] result := by
  intro concludes
  generalize listed : [] = outcomes at concludes
  cases concludes <;> simp at listed

theorem one_returned (ends : ¬ again outcome) : Concludes limit again spent [outcome] outcome := by
  rw [← List.nil_append [outcome]]
  exact .returned (fun _ member => absurd member List.not_mem_nil) ends fun bounded => bounded

theorem one_spent (goes : again outcome) : Concludes 1 again spent [outcome] (spent outcome) := by
  rw [← List.nil_append [outcome]]
  exact .spent (List.forall_mem_singleton.mpr goes) rfl

theorem cons (goes : again outcome) (room : limit ≠ 1)
    (concludes : Concludes (limit - 1) again spent outcomes result) :
    Concludes limit again spent (outcome :: outcomes) result := by
  cases concludes with
  | returned goOn ends short =>
    rw [← List.cons_append]
    refine .returned (List.forall_mem_cons.mpr ⟨goes, goOn⟩) ends fun bounded => ?_
    have := short (by omega)
    rw [List.length_cons]
    omega
  | spent goOn full =>
    rw [← List.cons_append]
    refine .spent (List.forall_mem_cons.mpr ⟨goes, goOn⟩) ?_
    simp only [List.length_append, List.length_cons] at full ⊢
    omega

theorem of_cons (concludes : Concludes limit again spent (outcome :: outcomes) result) :
    (outcomes = [] ∧ ¬ again outcome ∧ result = outcome) ∨
      (outcomes = [] ∧ again outcome ∧ limit = 1 ∧ result = spent outcome) ∨
      (again outcome ∧ limit ≠ 1 ∧ Concludes (limit - 1) again spent outcomes result) := by
  generalize listed : outcome :: outcomes = all at concludes
  cases concludes with
  | @returned earlier final goOn ends short =>
    cases earlier with
    | nil =>
      obtain ⟨rfl, rfl⟩ := List.cons.inj listed
      exact .inl ⟨rfl, ends, rfl⟩
    | cons first earlier =>
      obtain ⟨rfl, rfl⟩ := List.cons.inj listed
      rw [List.length_cons] at short
      obtain ⟨goes, goOn⟩ := List.forall_mem_cons.mp goOn
      exact .inr (.inr ⟨goes, by omega, .returned goOn ends fun _ => by omega⟩)
  | @spent earlier final goOn full =>
    cases earlier with
    | nil =>
      obtain ⟨rfl, rfl⟩ := List.cons.inj listed
      exact .inr (.inl ⟨rfl, goOn _ List.mem_cons_self, full.symm, rfl⟩)
    | cons first earlier =>
      obtain ⟨rfl, rfl⟩ := List.cons.inj listed
      obtain ⟨goes, goOn⟩ := List.forall_mem_cons.mp goOn
      simp only [List.length_append, List.length_cons, List.length_nil] at full
      exact .inr (.inr ⟨goes, by omega, .spent goOn (by simp; omega)⟩)

theorem length_le (concludes : Concludes limit again spent outcomes result) (bounded : 0 < limit) :
    outcomes.length ≤ limit := by
  cases concludes with
  | returned _ _ short =>
    rw [List.length_append]
    exact short bounded
  | spent _ full => exact Nat.le_of_eq full

/-- The result is either that of the last call, which is the only one that is not `again`, or it
stands for all of them. -/
theorem range_iff {sequence : Nat → Except Failure α} {calls : Nat} :
    Concludes limit again spent ((List.range calls).map sequence) result ↔
      ∃ last, calls = last + 1 ∧ (∀ n < last, again (sequence n) ∧ n + 1 ≠ limit) ∧
        ((¬ again (sequence last) ∧ result = sequence last) ∨
          (again (sequence last) ∧ last + 1 = limit ∧ result = spent (sequence last))) := by
  constructor
  · intro concludes
    generalize listed : (List.range calls).map sequence = outcomes at concludes
    cases calls with
    | zero =>
      subst listed
      exact absurd concludes not_nil
    | succ last =>
      -- The last call concludes the list, and the calls before it are those that went on.
      rw [List.range_succ, List.map_append] at listed
      cases concludes with
      | returned goOn ends short =>
        obtain ⟨rfl, same⟩ := List.append_inj' listed rfl
        cases same
        simp only [List.length_map, List.length_range] at short
        refine ⟨last, rfl, fun n before => ⟨?_, by omega⟩, .inl ⟨ends, rfl⟩⟩
        exact goOn _ (List.mem_map_of_mem (List.mem_range.mpr before))
      | spent goOn full =>
        obtain ⟨rfl, same⟩ := List.append_inj' listed rfl
        cases same
        simp only [List.length_append, List.length_map, List.length_range, List.length_singleton] at full
        refine ⟨last, rfl, fun n before => ⟨?_, by omega⟩, .inr ⟨?_, full, rfl⟩⟩
        · exact goOn _ (List.mem_append_left _ (List.mem_map_of_mem (List.mem_range.mpr before)))
        · exact goOn _ (List.mem_append_right _ (List.mem_singleton_self _))
  · rintro ⟨last, rfl, goOn, ⟨ends, rfl⟩ | ⟨goes, full, rfl⟩⟩
    all_goals rw [List.range_succ, List.map_append]
    · refine .returned ?_ ends fun bounded => ?_
      · simpa using fun n before => (goOn n before).1
      · simp only [List.length_map, List.length_range]
        by_contra long
        exact (goOn (limit - 1) (by omega)).2 (by omega)
    · refine .spent ?_ (by simpa using full)
      simpa [or_imp, forall_and, goes] using fun n before => (goOn n before).1

/-- Every sequence of outcomes is concluded once, unless there is no limit and no end of outcomes
after which there is another call. -/
theorem existsUnique_iff {sequence : Nat → Except Failure α} :
    (∃! made : Nat × Except Failure α,
      Concludes limit again spent ((List.range made.1).map sequence) made.2) ↔
      0 < limit ∨ ∃ n, ¬ again (sequence n) := by
  constructor
  · rintro ⟨⟨calls, result⟩, concludes, -⟩
    obtain ⟨last, -, -, ⟨ends, -⟩ | ⟨-, full, -⟩⟩ := range_iff.mp concludes
    · exact .inr ⟨last, ends⟩
    · exact .inl (by omega)
  · intro ends
    classical
    have stops : ∃ n, ¬ again (sequence n) ∨ n + 1 = limit := by
      obtain bounded | ⟨n, ends⟩ := ends
      · exact ⟨limit - 1, .inr (by omega)⟩
      · exact ⟨n, .inl ends⟩
    have goOn (n : Nat) (before : n < Nat.find stops) : again (sequence n) ∧ n + 1 ≠ limit := by
      simpa [not_or] using Nat.find_min stops before
    -- The last call is the first one whose outcome or whose number leaves no room for another call.
    have only {calls : Nat} {result : Except Failure α}
        (concludes : Concludes limit again spent ((List.range calls).map sequence) result) :
        calls = Nat.find stops + 1 ∧
          ((¬ again (sequence (Nat.find stops)) ∧ result = sequence (Nat.find stops)) ∨
            (again (sequence (Nat.find stops)) ∧ result = spent (sequence (Nat.find stops)))) := by
      obtain ⟨last, rfl, earlier, stopped⟩ := range_iff.mp concludes
      obtain rfl : Nat.find stops = last := by
        refine (Nat.find_eq_iff stops).mpr ⟨stopped.imp (·.1) (·.2.1), fun n before => ?_⟩
        simpa [not_or] using earlier n before
      exact ⟨rfl, stopped.imp_right fun ⟨goes, _, same⟩ => ⟨goes, same⟩⟩
    by_cases goes : again (sequence (Nat.find stops))
    · have full := (Nat.find_spec stops).resolve_left (not_not_intro goes)
      refine ⟨(Nat.find stops + 1, spent (sequence (Nat.find stops))),
        range_iff.mpr ⟨_, rfl, goOn, .inr ⟨goes, full, rfl⟩⟩, ?_⟩
      rintro ⟨calls, result⟩ concludes
      obtain ⟨rfl, ⟨ends, -⟩ | ⟨-, rfl⟩⟩ := only concludes
      · exact absurd goes ends
      · rfl
    · refine ⟨(Nat.find stops + 1, sequence (Nat.find stops)),
        range_iff.mpr ⟨_, rfl, goOn, .inl ⟨goes, rfl⟩⟩, ?_⟩
      rintro ⟨calls, result⟩ concludes
      obtain ⟨rfl, ⟨-, rfl⟩ | ⟨goesOn, -⟩⟩ := only concludes
      · rfl
      · exact absurd goesOn goes

theorem eq_iff {closed : Except Failure α} (apart : ¬ again closed)
    (concludes : Concludes limit again (fun _ => closed) outcomes result) :
    result = closed ↔
      (outcomes.length = limit ∧ ∀ outcome ∈ outcomes, again outcome) ∨ closed ∈ outcomes := by
  cases concludes with
  | returned goOn ends short =>
    constructor
    · rintro rfl
      exact .inr (List.mem_append_right _ (List.mem_singleton_self _))
    · rintro (⟨-, all⟩ | member)
      · exact absurd (all _ (List.mem_append_right _ (List.mem_singleton_self _))) ends
      · rcases List.mem_append.mp member with member | member
        · exact absurd (goOn _ member) apart
        · exact (List.mem_singleton.mp member).symm
  | spent goOn full => exact ⟨fun _ => .inl ⟨full, goOn⟩, fun _ => rfl⟩

end Concludes

theorem RetryPolicy.isExhausted_iff {policy : RetryPolicy} {n : Nat} (counted : 0 < n)
    (room : policy.attempts = 0 ∨ n ≤ policy.attempts) :
    policy.isExhausted n = true ↔ policy.attempts + 1 - n = 1 := by
  simp only [isExhausted, Bool.and_eq_true, decide_eq_true_eq]
  omega

/-- The calls that are numbered from some number on come to what as many calls come to as there are
left of all. -/
theorem concluded_iff {policy : RetryPolicy} {again : Failure → Bool}
    {spent : Failure → Nat → Failure} {goesOn : Except Failure α → Prop}
    {closed : Except Failure α → Except Failure α} {n : Nat} {outcomes : List (Except Failure α)}
    {result : Except Failure α}
    (agrees : ∀ outcome, goesOn outcome ↔ ∃ failure, outcome = .error failure ∧ again failure = true)
    (closes : ∀ failure, closed (.error failure) = .error (spent failure policy.attempts))
    (counted : 0 < n) (room : policy.attempts = 0 ∨ n ≤ policy.attempts) :
    Concluded policy again spent n outcomes result ↔
      Concludes (policy.attempts + 1 - n) goesOn closed outcomes result := by
  -- A call that goes on leaves one attempt less for the rest, which begins with the next number.
  induction outcomes generalizing n with
  | nil => exact ⟨nofun, fun concludes => absurd concludes Concludes.not_nil⟩
  | cons outcome outcomes ih =>
    have exhausted_iff := RetryPolicy.isExhausted_iff counted room
    have next : policy.attempts + 1 - n - 1 = policy.attempts + 1 - (n + 1) := by omega
    constructor
    · intro concluded
      cases concluded with
      | done => exact .one_returned fun goes => by simpa using (agrees _).mp goes
      | failed ends =>
        refine .one_returned fun goes => ?_
        obtain ⟨failure, same, goes⟩ := (agrees _).mp goes
        cases same
        rw [ends] at goes
        cases goes
      | @spent _ failure goes full =>
        obtain rfl : n = policy.attempts := by
          have := exhausted_iff.mp full
          omega
        rw [exhausted_iff.mp full, ← closes failure]
        exact .one_spent ((agrees _).mpr ⟨failure, rfl, goes⟩)
      | @more _ failure _ _ goes free later =>
        have left : policy.attempts + 1 - n ≠ 1 := mt exhausted_iff.mpr (by rw [free]; nofun)
        refine .cons ((agrees _).mpr ⟨failure, rfl, goes⟩) left ?_
        rw [next]
        exact (ih (by omega) (by omega)).mp later
    · intro concludes
      obtain ⟨rfl, ends, rfl⟩ | ⟨rfl, goes, full, rfl⟩ | ⟨goes, left, later⟩ := concludes.of_cons
      · cases result with
        | ok a => exact .done
        | error failure =>
          exact .failed (Bool.eq_false_iff.mpr fun goes => ends ((agrees _).mpr ⟨failure, rfl, goes⟩))
      · obtain ⟨failure, rfl, held⟩ := (agrees _).mp goes
        obtain rfl : n = policy.attempts := by omega
        rw [closes failure]
        exact .spent held (exhausted_iff.mpr full)
      · obtain ⟨failure, rfl, held⟩ := (agrees _).mp goes
        rw [next] at later
        exact .more held (Bool.eq_false_iff.mpr (mt exhausted_iff.mp left))
          ((ih (by omega) (by omega)).mpr later)

def unnumbered (operation : Program ρ (Except Failure α)) :
    Nat → Unit → Program ρ (Except Failure α × Unit) :=
  fun _ _ => do return (← operation, ())

inductive IsConflict : Except Failure α → Prop where
  | conflict (message : String) : IsConflict (.error (.conflict message))
  | refused {e : ApiError} : e.code = 409 → IsConflict (.error (.api e))

inductive IsFailure : Except Failure α → Prop where
  | error (failure : Failure) : IsFailure (.error failure)

theorem isConflict_iff (outcome : Except Failure α) :
    IsConflict outcome ↔ ∃ failure, outcome = .error failure ∧ failure.isConflict = true := by
  constructor
  · rintro (message | refused)
    · exact ⟨_, rfl, rfl⟩
    · exact ⟨_, rfl, beq_iff_eq.mpr refused⟩
  · rintro ⟨failure, rfl, conflict⟩
    cases failure with
    | conflict message => exact .conflict message
    | api e => exact .refused (beq_iff_eq.mp conflict)
    | _ => cases conflict

theorem isFailure_iff (outcome : Except Failure α) :
    IsFailure outcome ↔ ∃ failure, outcome = .error failure := by
  constructor
  · rintro ⟨failure⟩
    exact ⟨failure, rfl⟩
  · rintro ⟨failure, rfl⟩
    exact .error failure

/-- What a program does that repeats an operation after outcomes that are `again`. It returns what the
outcomes of the calls come to, whatever they are. -/
structure Repeats (policy : RetryPolicy) (operation : Nat → μ → Program ρ (Except Failure α × μ))
    (again : Except Failure α → Prop) (spent : Except Failure α → Except Failure α)
    (program : μ → Program ρ (Except Failure α × μ)) : Prop where
  path_iff : ∀ memory trace result last, Path (program memory) trace (.done (result, last)) ↔
    ∃ outcomes, Calls policy operation 1 policy.initial memory outcomes trace last ∧
      Concludes policy.attempts again spent outcomes result
  returns : ∀ (sequence : Nat → Except Failure α) (memory : Nat → μ)
    (called : Nat → List (Exchange ρ)),
    (∀ n, Path (operation (n + 1) (memory n)) (called n) (.done (sequence n, memory (n + 1)))) →
    (0 < policy.attempts ∨ ∃ n, ¬ again (sequence n)) →
    ∃ calls trace result, Path (program (memory 0)) trace (.done (result, memory calls)) ∧
      Concludes policy.attempts again spent ((List.range calls).map sequence) result

theorem exists_calls {policy : RetryPolicy} {operation : Nat → μ → Program ρ (Except Failure α × μ)}
    {sequence : Nat → Except Failure α} {memory : Nat → μ} {called : Nat → List (Exchange ρ)}
    {first : Nat} (delay : Duration)
    (calls : ∀ n, Path (operation (first + n) (memory n)) (called n)
      (.done (sequence n, memory (n + 1)))) (last : Nat) :
    ∃ trace, Calls policy operation first delay (memory 0)
      ((List.range (last + 1)).map sequence) trace (memory (last + 1)) := by
  induction last generalizing first delay sequence memory called with
  | zero => exact ⟨called 0, .last (calls 0)⟩
  | succ last ih =>
    have later (n : Nat) : Path (operation (first + 1 + n) (memory (n + 1))) (called (n + 1))
        (.done (sequence (n + 1), memory (n + 1 + 1))) := by
      rw [Nat.add_right_comm]
      exact calls (n + 1)
    obtain ⟨trace, rest⟩ := ih (policy.after delay) later
    rw [List.range_succ_eq_map, List.map_cons, List.map_map]
    exact ⟨_, .more (calls 0) rest⟩

theorem Repeats.of_path_iff {policy : RetryPolicy}
    {operation : Nat → μ → Program ρ (Except Failure α × μ)} {again : Except Failure α → Prop}
    {spent : Except Failure α → Except Failure α}
    {program : μ → Program ρ (Except Failure α × μ)}
    (path_iff : ∀ memory trace result last, Path (program memory) trace (.done (result, last)) ↔
      ∃ outcomes, Calls policy operation 1 policy.initial memory outcomes trace last ∧
        Concludes policy.attempts again spent outcomes result) :
    Repeats policy operation again spent program := by
  refine ⟨path_iff, fun sequence memory called paths ends => ?_⟩
  obtain ⟨⟨calls, result⟩, concludes, -⟩ := Concludes.existsUnique_iff.mpr ends
  obtain ⟨last, rfl, -⟩ := Concludes.range_iff.mp concludes
  have numbered (n : Nat) : Path (operation (1 + n) (memory n)) (called n)
      (.done (sequence n, memory (n + 1))) := by
    rw [Nat.add_comm]
    exact paths n
  obtain ⟨trace, made⟩ := exists_calls policy.initial numbered last
  exact ⟨last + 1, trace, result, (path_iff _ _ _ _).mpr ⟨_, made, concludes⟩, concludes⟩

theorem repeats_retryConflicts (policy : RetryPolicy) (name : String)
    (operation : Nat → μ → Program ρ (Except Failure α × μ)) :
    Repeats policy operation IsConflict (fun _ => .error (.exhausted name policy.attempts))
      fun memory => retryConflicts policy name memory operation := by
  refine .of_path_iff fun memory trace result last => ?_
  rw [retryConflicts_eq, path_repeating_iff, turns_attemptRound_iff]
  refine exists_congr fun outcomes => and_congr_right fun _ => ?_
  exact concluded_iff isConflict_iff (fun _ => rfl) Nat.one_pos (by omega)

/-- A round of the loop that goes on after any failure. -/
def alwaysRound (policy : RetryPolicy) (operation : Program ρ (Except Failure α)) :
    Nat × Duration → Program ρ (Nat × Duration ⊕ Except Failure α) :=
  fun (attempt, delay) => do
    match ← operation with
    | .ok a => return .inr (.ok a)
    | .error failure =>
      if policy.isExhausted attempt then return .inr (.error failure)
      else
        ask (Timed.sleep delay)
        return .inl (attempt + 1, policy.after delay)

theorem retryAlways_eq (policy : RetryPolicy) (operation : Program ρ (Except Failure α)) :
    retryAlways policy operation = repeating (1, policy.initial) (alwaysRound policy operation) := rfl

theorem attemptRound_unnumbered (policy : RetryPolicy) (operation : Program ρ (Except Failure α))
    (x : Nat × Duration) :
    attemptRound policy (fun _ => true) (fun failure _ => failure) (unnumbered operation) (x.1, x.2, ()) =
      (alwaysRound policy operation x).bind fun round =>
        .done (round.map (fun x => (x.1, x.2, ())) fun result => (result, ())) := by
  refine (bind_assoc operation _ _).trans (Eq.trans ?_ (bind_assoc operation _ _).symm)
  congr 1
  funext outcome
  rcases outcome with failure | a
  · by_cases full : policy.isExhausted x.1 = true
    · simp only [full]
      rfl
    · simp only [full]
      rfl
  · rfl

theorem turns_retryAlways_iff {policy : RetryPolicy} {operation : Program ρ (Except Failure α)}
    {trace : List (Exchange ρ)} {result : Except Failure α} :
    Turns (attemptRound policy (fun _ => true) (fun failure _ => failure) (unnumbered operation))
        (1, policy.initial, ()) trace (result, ()) ↔
      Path (retryAlways policy operation) trace (.done result) := by
  rw [retryAlways_eq, path_repeating_iff]
  exact Turns.map_iff (fun x : Nat × Duration => (x.1, x.2, ())) (fun r => (r, ()))
    (fun _ _ same => (Prod.mk.inj same).1) (attemptRound_unnumbered policy operation) (1, policy.initial)

theorem repeats_retryAlways (policy : RetryPolicy) (operation : Program ρ (Except Failure α)) :
    Repeats policy (unnumbered operation) IsFailure id
      fun _ => do return (← retryAlways policy operation, ()) := by
  refine .of_path_iff fun _ trace result last => ?_
  refine path_map_iff.trans ?_
  have same (r : Except Failure α) : (r, ()) = (result, last) ↔ r = result := by simp
  simp only [same, exists_eq_right]
  rw [← turns_retryAlways_iff, turns_attemptRound_iff]
  refine exists_congr fun outcomes => and_congr_right fun _ => ?_
  exact concluded_iff (fun outcome => by simpa using isFailure_iff outcome) (fun _ => rfl)
    Nat.one_pos (by omega)

/-- An operation is repeated after conflicts, or after any failure, until a call has another outcome
or until there are as many calls as the policy allows. Conflicts alone have a result of their own then,
which is a result of something else only if a call had it. Any sequence of outcomes is concluded in this way, and only in one way, unless the policy sets
no limit and nothing ends the calls. -/
theorem retries_accounted (policy : RetryPolicy) (name : String)
    (operation : Nat → μ → Program ρ (Except Failure α × μ))
    (plain : Program ρ (Except Failure α)) :
    let exhausted : Except Failure α := .error (.exhausted name policy.attempts)
    Repeats policy operation IsConflict (fun _ => exhausted)
      (fun memory => retryConflicts policy name memory operation) ∧
    (∀ outcomes result, Concludes policy.attempts IsConflict (fun _ => exhausted) outcomes result →
      (result = exhausted ↔
        (outcomes.length = policy.attempts ∧ ∀ outcome ∈ outcomes, IsConflict outcome) ∨
          exhausted ∈ outcomes)) ∧
    Repeats policy (unnumbered plain) IsFailure id
      (fun _ => do return (← retryAlways policy plain, ())) ∧
    ∀ (again : Except Failure α → Prop) (spent : Except Failure α → Except Failure α),
      (∀ outcomes result, Concludes policy.attempts again spent outcomes result →
        0 < policy.attempts → outcomes.length ≤ policy.attempts) ∧
      ∀ sequence : Nat → Except Failure α,
        (∃! made : Nat × Except Failure α,
          Concludes policy.attempts again spent ((List.range made.1).map sequence) made.2) ↔
          0 < policy.attempts ∨ ∃ n, ¬ again (sequence n) := by
  refine ⟨repeats_retryConflicts policy name operation, fun _ _ concludes => concludes.eq_iff nofun,
    repeats_retryAlways policy plain, fun _ _ => ⟨fun _ _ => Concludes.length_le, fun _ => ?_⟩⟩
  exact Concludes.existsUnique_iff

/-- A conflict, and then a second call that succeeds. -/
theorem retries_accounted_second_call :
    Path (retryConflicts (ρ := Request) .conflict "renew" "" fun n seen =>
        .done (if n < 2 then .error (.conflict "stale") else .ok n, seen ++ "+"))
      [⟨Request.sleep (.ofMillis 10), ()⟩] (.done (.ok 2, "++")) := by
  let renew (n : Nat) (seen : String) : Program Request (Except Failure Nat × String) :=
    .done (if n < 2 then .error (.conflict "stale") else .ok n, seen ++ "+")
  have first : Path (renew 1 "") [] (.done (.error (.conflict "stale"), "+")) := .here _
  have second : Path (renew 2 "+") [] (.done (.ok 2, "++")) := .here _
  have stale : IsConflict (.error (.conflict "stale") : Except Failure Nat) := .conflict "stale"
  obtain ⟨⟨path_iff, -⟩, -⟩ := retries_accounted .conflict "renew" renew (.done (.ok 0))
  refine (path_iff "" _ _ _).mpr ⟨[.error (.conflict "stale")] ++ [.ok 2],
    .more first (.last second), .returned (List.forall_mem_singleton.mpr stale) ?_ (by decide)⟩
  rintro ⟨⟩

end ClusterBackup
