import ClusterBackup.Proofs.Watch.Requeues
import ClusterBackup.Watch.Reconcile

/-! Failures that last until a user mends what is wrong.

What a failure was does not count when it is answered, only how often its workload has failed in a
row. So a failure that is useless to repeat is repeated all the same, and takes away from the
attempts that are left for others. -/

set_option autoImplicit false

namespace ClusterBackup.Watch

open Cluster Number Requeues

/-- A reconciliation of a workload that has come to its end. -/
structure Attempt where
  workload : Workload
  outcome : Except Failure Next

namespace Attempt

/-- Trying again fails again. -/
def isHopeless (a : Attempt) : Bool :=
  match a.outcome with
  | .ok _ => false
  | .error failure => ! failure.isRetryable

/-- The attempt as it would be if something else had gone wrong. -/
def failingWith (other : Failure → Failure) (a : Attempt) : Attempt :=
  { a with outcome := a.outcome.mapError other }

def call (a : Attempt) : Call :=
  match a.outcome with
  | .ok _ => .reset a.workload.describe
  | .error _ => .failed a.workload.describe

end Attempt

/-- Attempts in their order, each with when to look at its workload again. -/
def verdicts (r : Requeues) : List Attempt → List (Attempt × Next)
  | [] => []
  | a :: later =>
    (a, (settle r a.workload a.outcome).2) :: verdicts (settle r a.workload a.outcome).1 later

def settled (limit : Nat) (attempts : List Attempt) : Requeues :=
  attempts.foldl (fun r a => (settle r a.workload a.outcome).1) { limit }

/-- How often a workload is to be tried again that has failed and neither succeeded nor been dropped
since. -/
def requeued (limit : Nat) (attempts : List Attempt) (w : Workload) : Nat :=
  (streak w.describe (log limit (attempts.map Attempt.call).reverse)).length

/-- Hopeless failures are not tried again, and the others are answered as if there were no hopeless
ones. -/
def SparesHopeless (limit : Nat) : Prop :=
  ∀ attempts, (∀ entry ∈ verdicts { limit } attempts, entry.1.isHopeless → entry.2 = .awaitChange) ∧
    (verdicts { limit } attempts).filter (! ·.1.isHopeless) =
      verdicts { limit } (attempts.filter (! ·.isHopeless))

def Next.ofDelay : Option Duration → Next
  | some delay => .after delay
  | none => .awaitChange

section

variable {r : Requeues} {w : Workload} {failure : Failure}

theorem settle_error : settle r w (.error failure) =
    ((r.fail w.describe).1, .ofDelay (r.fail w.describe).2) := by
  rw [settle]
  rcases r.fail w.describe with ⟨after, _ | delay⟩ <;> rfl

theorem settle_step (r : Requeues) (a : Attempt) :
    (settle r a.workload a.outcome).1 = (r.step a.call).1 := by
  obtain ⟨w, _ | next⟩ := a
  · exact congrArg Prod.fst settle_error
  · rfl

theorem settle_failingWith (other : Failure → Failure) (r : Requeues) (a : Attempt) :
    settle r (a.failingWith other).workload (a.failingWith other).outcome =
      settle r a.workload a.outcome := by
  obtain ⟨w, _ | next⟩ := a <;> rfl

end

theorem settled_eq_after (limit : Nat) (attempts : List Attempt) :
    settled limit attempts = after limit (attempts.map Attempt.call).reverse := by
  induction attempts using List.reverseRecOn with
  | nil => rfl
  | append_singleton earlier a ih =>
    have last : settled limit (earlier ++ [a]) =
        (settle (settled limit earlier) a.workload a.outcome).1 := List.foldl_concat ..
    rw [last, settle_step, ih, List.map_append, List.reverse_append]
    rfl

/-- A failure is answered by how often its workload has failed in a row, whatever has failed. -/
theorem settle_settled {limit : Nat} (bounded : limit < limit32 - 1) (attempts : List Attempt)
    (w : Workload) (failure : Failure) :
    (settle (settled limit attempts) w (.error failure)).2 =
      if requeued limit attempts w < limit
        then .after (.ofSeconds (min (5 * 2 ^ requeued limit attempts w) 300)) else .awaitChange := by
  have room : limit + 1 < limit32 := by omega
  obtain ⟨counted, few, _⟩ := recorded_after room (attempts.map Attempt.call).reverse w.describe
  have limits := limit_after limit (attempts.map Attempt.call).reverse
  -- The streak is what is counted, and a workload is dropped before it exceeds the limit.
  rw [settle_error, settled_eq_after]
  rcases fail_cases (by rwa [limits]) counted (by rwa [limits]) with
    ⟨left, answer, _⟩ | ⟨spent, answer, _⟩
  · rw [answer, requeued, if_pos (by rwa [limits] at left)]
    rfl
  · rw [answer, requeued, if_neg (by rw [spent, limits]; exact Nat.lt_irrefl limit)]
    rfl

theorem verdicts_failingWith (other : Failure → Failure) (r : Requeues) (attempts : List Attempt) :
    (verdicts r (attempts.map (·.failingWith other))).map (·.2) = (verdicts r attempts).map (·.2) := by
  induction attempts generalizing r with
  | nil => rfl
  | cons a later ih =>
    simp only [List.map_cons, verdicts, settle_failingWith, ih]

theorem settle_none (a : Attempt) : settle { limit := 0 } a.workload a.outcome =
    ({ limit := 0 }, a.outcome.toOption.getD .awaitChange) := by
  obtain ⟨w, _ | next⟩ := a
  · rw [settle_error, fail_of_lt (show 0 < 1 from Nat.zero_lt_one)]
    rfl
  · rfl

theorem verdicts_none (attempts : List Attempt) : verdicts { limit := 0 } attempts =
    attempts.map fun a => (a, a.outcome.toOption.getD .awaitChange) := by
  induction attempts with
  | nil => rfl
  | cons a later ih => rw [verdicts, settle_none, ih, List.map_cons]

theorem spares_none : SparesHopeless 0 := by
  intro attempts
  rw [verdicts_none, verdicts_none]
  constructor
  · intro entry member hopeless
    obtain ⟨⟨w, outcome⟩, _, rfl⟩ := List.mem_map.mp member
    cases outcome with
    | error failure => rfl
    | ok next => cases hopeless
  · rw [List.filter_map]
    rfl

namespace Unspared

def bare : Workload :=
  { kind := .replicationController, metadata := Metadata.named "default" "web", spec := some {} }

def bareFailure : Failure := .validation "ReplicationController default/web has no pod template"

end Unspared

open Unspared in
/-- Already the first failure of a workload is tried again, if any is. -/
theorem not_spares {limit : Nat} (some : limit ≠ 0) : ¬ SparesHopeless limit := by
  intro spares
  have dropped := (spares [⟨bare, .error bareFailure⟩]).1 (⟨bare, .error bareFailure⟩, _)
    List.mem_cons_self rfl
  have left : (({ limit } : Requeues).recorded bare.describe + 1).toNat ≤ limit :=
    Nat.one_le_iff_ne_zero.mpr some
  obtain ⟨answer, _⟩ := fail_of_le left
  rw [settle_error, answer] at dropped
  cases dropped

/-- The kind of a failure has no say in its answer, nor in those to later failures: replaced by any
others, failures are answered alike. Each is tried again until its workload has failed too often in a
row, so hopeless ones are spared only if nothing at all is tried again. -/
theorem hopeless_spared_iff (limit : Nat) (bounded : limit < limit32 - 1) :
    (∀ attempts w failure, (settle (settled limit attempts) w (.error failure)).2 =
      if requeued limit attempts w < limit
        then .after (.ofSeconds (min (5 * 2 ^ requeued limit attempts w) 300)) else .awaitChange) ∧
    (∀ other attempts, (verdicts { limit } (attempts.map (·.failingWith other))).map (·.2) =
      (verdicts { limit } attempts).map (·.2)) ∧
    (SparesHopeless limit ↔ limit = 0) := by
  refine ⟨settle_settled bounded, fun other => verdicts_failingWith other _, fun spares => ?_, ?_⟩
  · exact not_not.mp fun some => not_spares some spares
  · rintro rfl
    exact spares_none

open Unspared in
/-- The workload has to be changed, is tried again in vain all the same, and has to wait longer when
the connection is lost after that. -/
theorem hopeless_spared_iff_bare : 2 < limit32 - 1 ∧
    Sidecar.remove bare = .error bareFailure ∧ bareFailure.isRetryable = false ∧
    (settle (settled 2 []) bare (.error bareFailure)).2 = .after (.ofSeconds 5) ∧
    (settle (settled 2 [⟨bare, .error bareFailure⟩]) bare (.error (.client "connection refused"))).2 =
      .after (.ofSeconds 10) ∧
    ¬ SparesHopeless 2 := by
  have bounded : 2 < limit32 - 1 := by decide
  obtain ⟨answered, _, spared⟩ := hopeless_spared_iff 2 bounded
  refine ⟨bounded, rfl, rfl, answered [] bare bareFailure, ?_, mt spared.mp (by decide)⟩
  exact answered [⟨bare, .error bareFailure⟩] bare (.client "connection refused")

end ClusterBackup.Watch
