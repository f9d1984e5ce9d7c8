import ClusterBackup.Proofs.Program.Contract
import ClusterBackup.Proofs.Program.Inevitable
import ClusterBackup.Proofs.Program.Within
import ClusterBackup.Retry

/-! Contracts of repeated operations: after conflicts, and of reading, changing and writing. -/

set_option autoImplicit false

universe u

namespace ClusterBackup

open Program

variable {ρ : Type → Type} [Timed ρ] {σ : Type u} {terms : Terms ρ σ} {α μ : Type}

/-- What is ready for an attempt is ready for the next one after a conflict, and while the
program sleeps. -/
theorem ensures_retryConflicts {policy : RetryPolicy} {name : String} {memory : μ}
    {operation : Nat → μ → Program ρ (Except Failure α × μ)} {ready : μ → σ → Prop}
    {post : Except Failure α × μ → σ → Prop} {s : σ}
    (readyStable : ∀ m, terms.Stable (ready m)) (postStable : ∀ r, terms.Stable (post r))
    (attempt : ∀ n m t, ready m t → Ensures terms (operation n m) (fun r u => match r with
      | (.ok a, m) => post (.ok a, m) u
      | (.error failure, m) => ready m u ∧ post (.error failure, m) u) t)
    (spent : ∀ n m t, ready m t → post (.error (.exhausted name n), m) t)
    (sleeps : ∀ d m t reply u, ready m t → terms.world t ⟨Timed.sleep d, reply⟩ u →
      terms.guarantee t ⟨Timed.sleep d, reply⟩ u ∧ ready m u)
    (first : ready memory s) :
    Ensures terms (retryConflicts policy name memory operation) post s := by
  -- The count of the attempts and the delay are of no account: the memory alone is kept ready.
  refine ⟨fun x => ready x.2.2, fun x => readyStable x.2.2, first, ?_⟩
  rintro ⟨n, delay, m⟩ t holds
  refine Ensures.bind ((attempt n m t holds).weaken ?_)
  rintro ⟨_ | a, m⟩ u
  · rename_i failure
    rintro ⟨again, refused⟩
    by_cases conflict : failure.isConflict
    · by_cases last : policy.isExhausted n
      · simp only [conflict, last]
        intro v later w further
        exact postStable _ _ _ further (postStable _ _ _ later (spent n m u again))
      · simp only [conflict, last]
        intro v later reply w answered
        obtain ⟨kept, still⟩ := sleeps delay m v reply w (readyStable m u v later again) answered
        exact ⟨kept, fun z further => readyStable m w z further still⟩
    · simp only [conflict]
      intro v later w further
      exact postStable _ _ _ further (postStable _ _ _ later refused)
  · intro holds v later w further
    exact postStable _ _ _ further (postStable _ _ _ later holds)

/-- Reading, changing and writing back. What holds while nothing is written is `ready`, and of
an object that was read `holding`. -/
theorem ensures_readChangeWrite {policy : RetryPolicy} {name : String}
    {read : Program ρ (Except Failure (Option α))} {write : α → Program ρ (Except Failure α)}
    {change : α → α × Bool} {post : Except Failure (Option α) × Bool → σ → Prop} {s : σ}
    (ready : Bool → σ → Prop) (holding : Bool → α → σ → Prop)
    (readyStable : ∀ flag, terms.Stable (ready flag)) (postStable : ∀ r, terms.Stable (post r))
    (reads : ∀ flag t, ready flag t → Ensures terms read (fun r u => match r with
      | .error _ => ready flag u
      | .ok none => post (.ok none, flag) u
      | .ok (some object) => holding flag object u) t)
    (unchanged : ∀ flag object t, holding flag object t → (change object).2 = false →
      post (.ok (some (change object).1), false) t)
    (writes : ∀ flag object t, holding flag object t → (change object).2 = true →
      Ensures terms (write (change object).1) (fun r u => match r with
        | .error _ => ready true u
        | .ok written => post (.ok (some written), true) u) t)
    (failed : ∀ flag failure t, ready flag t → post (.error failure, flag) t)
    (sleeps : ∀ d flag t reply u, ready flag t → terms.world t ⟨Timed.sleep d, reply⟩ u →
      terms.guarantee t ⟨Timed.sleep d, reply⟩ u ∧ ready flag u)
    (first : ready false s) :
    Ensures terms (readChangeWrite policy name read write change) post s := by
  refine ensures_retryConflicts readyStable postStable ?_
    (fun n flag t holds => failed flag _ t holds) sleeps first
  intro n flag t holds
  -- Others come in after every exchange, so what it brings about is used only after they have.
  refine Ensures.bind ((reads flag t holds).weaken ?_)
  rintro (failure | _ | object) u
  · intro still v later
    have ready := readyStable flag u v later still
    exact ⟨ready, failed flag failure v ready⟩
  · intro absent v later
    exact postStable _ u v later absent
  · intro held
    rcases changed : change object with ⟨result, _ | _⟩
    · simp only [changed]
      intro v later
      have done := unchanged flag object u held (by rw [changed])
      rw [changed] at done
      exact postStable _ u v later done
    · simp only [changed]
      have written := writes flag object u held (by rw [changed])
      rw [changed] at written
      refine Ensures.bind (written.weaken ?_)
      rintro (failure | object) v
      · intro still w later
        have ready := readyStable true v w later still
        exact ⟨ready, failed true failure w ready⟩
      · intro holds w later
        exact postStable _ v w later holds

section

variable {allowed : ⦃β : Type⦄ → ρ β → Prop} {policy : RetryPolicy} {name : String}

theorem within_retryConflicts {memory : μ} {operation : Nat → μ → Program ρ (Except Failure α × μ)}
    (attempt : ∀ n m, Within allowed (operation n m)) (sleeps : ∀ d, allowed (Timed.sleep d)) :
    Within allowed (retryConflicts policy name memory operation) := by
  refine .repeating fun ⟨n, delay, m⟩ => .bind (attempt n m) fun result => ?_
  rcases result with ⟨failure | a, m⟩
  · by_cases conflict : failure.isConflict
    · by_cases last : policy.isExhausted n
      · simp only [conflict, last]
        trivial
      · simp only [conflict, last]
        exact ⟨sleeps delay, fun _ => trivial⟩
    · simp only [conflict]
      trivial
  · trivial

theorem within_readChangeWrite {read : Program ρ (Except Failure (Option α))}
    {write : α → Program ρ (Except Failure α)} {change : α → α × Bool}
    (reads : Within allowed read) (writes : ∀ a, Within allowed (write a))
    (sleeps : ∀ d, allowed (Timed.sleep d)) :
    Within allowed (readChangeWrite policy name read write change) := by
  refine within_retryConflicts (fun _ flag => .bind reads fun result => ?_) sleeps
  rcases result with failure | _ | object
  · trivial
  · trivial
  · dsimp only
    rcases change object with ⟨changed, _ | _⟩
    · trivial
    · refine .bind (writes changed) fun result => ?_
      cases result <;> trivial

theorem within_pollFor {timeout interval : Duration} {message : String}
    {check : Program ρ (Except Failure (Option α))} (checks : Within allowed check)
    (now : allowed (Timed.now (ρ := ρ))) (sleeps : ∀ d, allowed (Timed.sleep d)) :
    Within allowed (pollFor timeout interval message check) := by
  refine .bind (.ask now) fun start => .repeating fun _ => .bind checks fun result => ?_
  have waits (deadline : Duration) : Within allowed (do
      let now ← Program.ask (Timed.now (ρ := ρ))
      if deadline.nanos < now.nanos + interval.nanos then
        return .inr (.error (.timeout message))
      else
        Program.ask (Timed.sleep interval)
        return .inl () : Program ρ (Unit ⊕ Except Failure α)) := by
    refine .bind (.ask now) fun time => ?_
    split
    · trivial
    · exact .bind (.ask (sleeps interval)) fun _ => trivial
  rcases result with failure | _ | answer
  · exact waits _
  · exact waits _
  · trivial

theorem within_pollUntil {timeout interval : Duration} {message : String}
    {check : Program ρ (Except Failure Bool)} (checks : Within allowed check)
    (now : allowed (Timed.now (ρ := ρ))) (sleeps : ∀ d, allowed (Timed.sleep d)) :
    Within allowed (pollUntil timeout interval message check) :=
  within_pollFor (.bind checks fun _ => trivial) now sleeps

end

section

variable {world : σ → Exchange ρ → σ → Prop} {goal : Exchange ρ → Prop} {policy : RetryPolicy}
  {name : String} {s : σ}

theorem inevitable_retryConflicts {operation : Nat → μ → Program ρ (Except Failure α × μ)}
    {memory : μ} {post : Except Failure α × μ → σ → Prop}
    (attempt : Inevitable world goal (fun r t => ∃ a last, r = (.ok a, last) ∧ post r t)
      (operation 1 memory) s) :
    Inevitable world goal post (retryConflicts policy name memory operation) s := by
  refine .loop (.bind (.bind (attempt.weaken ?_)))
  rintro _ t ⟨a, last, rfl, holds⟩
  exact .done (.done holds)

theorem inevitable_retryConflicts_of_bounded
    {operation : Nat → μ → Program ρ (Except Failure α × μ)} {memory : μ}
    (bounded : 0 < policy.attempts)
    (attempts : ∀ n m t, Inevitable world goal (fun _ _ => True) (operation n m) t)
    (sleeps : ∀ d t, ∃ reply u, world t ⟨Timed.sleep d, reply⟩ u) :
    Inevitable world goal (fun _ _ => True) (retryConflicts policy name memory operation) s := by
  -- The attempts that are left become fewer with each round.
  refine .repeating (fun x _ => policy.attempts - x.1) ?_
  rintro ⟨n, delay, m⟩ t
  refine .bind ((attempts n m t).weaken ?_)
  rintro ⟨failure | a, m⟩ u _
  · by_cases conflict : failure.isConflict = true
    · by_cases last : policy.isExhausted n = true
      · simp only [conflict, last]
        exact .done trivial
      · have more : n < policy.attempts := by simpa [RetryPolicy.isExhausted, bounded] using last
        simp only [conflict, last]
        refine .request (sleeps delay u) fun _ v _ _ => .done ?_
        simp only [Sum.elim_inl]
        omega
    · simp only [conflict]
      exact .done trivial
  · exact .done trivial

theorem inevitable_readChangeWrite {read : Program ρ (Except Failure (Option α))}
    {write : α → Program ρ (Except Failure α)} {change : α → α × Bool}
    {post : Except Failure (Option α) × Bool → σ → Prop}
    (reads : Inevitable world goal (fun r t => ∃ object changed, r = .ok (some object) ∧
      change object = (changed, true) ∧ Inevitable world goal (fun r u => ∃ written,
        r = .ok written ∧ post (.ok (some written), true) u) (write changed) t) read s) :
    Inevitable world goal post (readChangeWrite policy name read write change) s := by
  refine inevitable_retryConflicts (.bind (reads.weaken ?_))
  rintro _ t ⟨object, changed, rfl, changes, writes⟩
  simp only [changes]
  refine .bind (writes.weaken ?_)
  rintro _ u ⟨written, rfl, holds⟩
  exact .done ⟨some written, true, rfl, holds⟩

end

end ClusterBackup
