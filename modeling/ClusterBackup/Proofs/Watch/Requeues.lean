import Mathlib.Data.List.Pairwise
import Mathlib.Data.UInt
import ClusterBackup.Watch.Requeue

/-! How a key is tried again that fails over and over.

The delays that a key was given since it was last reset or dropped are its streak. They determine
the answer to its next failure, whatever other keys have done. -/

set_option autoImplicit false

namespace ClusterBackup.Requeues

open Number

section

variable {r s : Requeues} {key other : String}

theorem recorded_forget_self : (r.forget key).recorded key = 0 := by
  have gone : (r.failures.filter (·.1 != key)).find? (·.1 == key) = none := by
    simp [List.find?_eq_none]
  rw [recorded, forget, gone]
  rfl

theorem recorded_forget_other (different : key ≠ other) :
    (r.forget other).recorded key = r.recorded key := by
  have kept (entry : String × UInt32) :
      decide ((entry.1 != other) = true ∧ (entry.1 == key) = true) = (entry.1 == key) := by
    by_cases here : entry.1 = key
    · simp [here, different]
    · simp [here]
  simp only [recorded, forget, List.find?_filter, kept]

theorem fail_of_lt (spent : r.limit < (r.recorded key + 1).toNat) :
    r.fail key = (r.forget key, none) :=
  if_pos spent

theorem fail_of_le (left : (r.recorded key + 1).toNat ≤ r.limit) :
    (r.fail key).2 = some (delay (r.recorded key + 1)) ∧
      (r.fail key).1.recorded key = r.recorded key + 1 := by
  have kept : r.fail key = ({ r with
      failures := (key, r.recorded key + 1) :: (r.forget key).failures },
      some (delay (r.recorded key + 1))) := if_neg (Nat.not_lt.mpr left)
  rw [kept]
  exact ⟨rfl, by simp [recorded]⟩

theorem recorded_fail_other (different : key ≠ other) :
    (r.fail other).1.recorded key = r.recorded key := by
  unfold fail
  dsimp only
  split
  · exact recorded_forget_other different
  · have kept := recorded_forget_other (r := r) different
    simpa [recorded, Ne.symm different] using kept

theorem limit_fail : (r.fail key).1.limit = r.limit := by
  unfold fail
  dsimp only
  split <;> rfl

/-- What is recorded for a key determines the answer to its failure, and what is recorded then. -/
theorem fail_congr (limits : r.limit = s.limit) (same : r.recorded key = s.recorded key) :
    (r.fail key).2 = (s.fail key).2 ∧ (r.fail key).1.recorded key = (s.fail key).1.recorded key := by
  by_cases spent : r.limit < (r.recorded key + 1).toNat
  · rw [fail_of_lt spent, fail_of_lt (limits ▸ same ▸ spent)]
    exact ⟨rfl, recorded_forget_self.trans recorded_forget_self.symm⟩
  · obtain ⟨answer, after⟩ := fail_of_le (Nat.not_lt.mp spent)
    obtain ⟨other, then'⟩ := fail_of_le (limits ▸ same ▸ Nat.not_lt.mp spent)
    exact ⟨by rw [answer, other, same], by rw [after, then', same]⟩

end

section

variable {failures : UInt32}

theorem toNat_doublings (some : 0 < failures.toNat) :
    (doublings failures).toNat = min (failures.toNat - 1) 16 := by
  have one : (1 : UInt32) ≤ failures := UInt32.le_iff_toNat_le.mpr some
  rw [doublings, UInt32.toNat_min, UInt32.toNat_sub_of_le _ _ one]
  rfl

theorem toNat_doublings_le : (doublings failures).toNat ≤ 16 := by
  rw [doublings, UInt32.toNat_min]
  exact Nat.min_le_right _ _

theorem toNat_factor : (factor failures).toNat = 2 ^ (doublings failures).toNat := by
  have few : (doublings failures).toNat ≤ 16 := toNat_doublings_le
  have fits : 2 ^ (doublings failures).toNat < 2 ^ 32 := Nat.pow_lt_pow_right (by omega) (by omega)
  have kept : (doublings failures).toNat % 32 = (doublings failures).toNat := Nat.mod_eq_of_lt (by omega)
  rw [factor, UInt32.toNat_shiftLeft, kept, show (1 : UInt32).toNat = 1 from rfl, Nat.one_shiftLeft,
    Nat.mod_eq_of_lt fits]

theorem delay_eq (some : 0 < failures.toNat) :
    delay failures = .ofSeconds (min (5 * 2 ^ (failures.toNat - 1)) 300) := by
  have scaled (n : Nat) : (shortest.times n).minimum longest = .ofSeconds (min (5 * n) 300) := by
    simp only [shortest, longest, Duration.times, Duration.minimum, Duration.ofSeconds,
      Duration.mk.injEq]
    omega
  rw [delay, toNat_factor, toNat_doublings some, scaled]
  -- From sixteen doublings on the delay is the longest one.
  by_cases few : failures.toNat - 1 ≤ 16
  · rw [Nat.min_eq_left few]
  · have many : 2 ^ 16 ≤ 2 ^ (failures.toNat - 1) := Nat.pow_le_pow_right (by omega) (by omega)
    rw [Nat.min_eq_right (Nat.le_of_not_le few), Nat.min_eq_right (by omega),
      Nat.min_eq_right (by omega)]

theorem isRepresentable_times_factor :
    (shortest.times (factor failures).toNat).IsRepresentable := by
  have few : (doublings failures).toNat ≤ 16 := toNat_doublings_le
  have small : 2 ^ (doublings failures).toNat ≤ 2 ^ 16 := Nat.pow_le_pow_right (by omega) few
  rw [toNat_factor, Duration.IsRepresentable, shortest, Duration.times, Duration.ofSeconds]
  dsimp only [limit64]
  omega

end

/-- A failure of a key for which so many are recorded: the key is tried again, or it has used up its
attempts and is dropped. -/
theorem fail_cases {r : Requeues} {key : String} {n : Nat} (bounded : r.limit + 1 < limit32)
    (counted : (r.recorded key).toNat = n) (few : n ≤ r.limit) :
    (n < r.limit ∧ (r.fail key).2 = some (.ofSeconds (min (5 * 2 ^ n) 300)) ∧
        ((r.fail key).1.recorded key).toNat = n + 1) ∨
      (n = r.limit ∧ (r.fail key).2 = none ∧ ((r.fail key).1.recorded key).toNat = 0) := by
  have next : (r.recorded key + 1).toNat = n + 1 := by
    rw [UInt32.toNat_add, counted]
    exact Nat.mod_eq_of_lt (by simp only [limit32] at bounded; simp; omega)
  by_cases spent : r.limit < n + 1
  · have dropped : r.fail key = (r.forget key, none) := fail_of_lt (by rwa [next])
    refine .inr ⟨by omega, by rw [dropped], ?_⟩
    rw [dropped, recorded_forget_self]
    rfl
  · obtain ⟨answer, kept⟩ := fail_of_le (r := r) (by rw [next]; exact Nat.not_lt.mp spent)
    have delayed : delay (r.recorded key + 1) = .ofSeconds (min (5 * 2 ^ n) 300) := by
      rw [delay_eq (by omega), next, Nat.add_sub_cancel]
    exact .inl ⟨by omega, by rw [answer, delayed], by rw [kept, next]⟩

inductive Call where
  | failed (key : String)
  | reset (key : String)
  deriving DecidableEq, Repr

/-- A call and the answer to it. -/
inductive Entry where
  | failed (key : String) (answer : Option Duration)
  | reset (key : String)
  deriving DecidableEq, Repr

def Call.key : Call → String
  | failed key | reset key => key

def Entry.key : Entry → String
  | failed key _ | reset key => key

def step (r : Requeues) : Call → Requeues × Entry
  | .failed key => ((r.fail key).1, .failed key (r.fail key).2)
  | .reset key => (r.forget key, .reset key)

def after (limit : Nat) : List Call → Requeues
  | [] => { limit }
  | call :: earlier => ((after limit earlier).step call).1

def log (limit : Nat) : List Call → List Entry
  | [] => []
  | call :: earlier => ((after limit earlier).step call).2 :: log limit earlier

/-- The delays that a key was given since it was last reset or dropped, from the last one back. -/
def streak (key : String) : List Entry → List Duration
  | [] => []
  | .reset other :: earlier => if other = key then [] else streak key earlier
  | .failed other answer :: earlier =>
    if other = key then
      match answer with
      | some delay => delay :: streak key earlier
      | none => []
    else streak key earlier

section

variable {r s : Requeues} {call : Call} {key : String}

@[simp] theorem key_step : (r.step call).2.key = call.key := by
  cases call <;> rfl

theorem limit_step : (r.step call).1.limit = r.limit := by
  cases call with
  | failed key => exact limit_fail
  | reset key => rfl

theorem recorded_step_other (different : key ≠ call.key) :
    (r.step call).1.recorded key = r.recorded key := by
  cases call with
  | failed other => exact recorded_fail_other different
  | reset other => exact recorded_forget_other different

theorem step_congr (limits : r.limit = s.limit) (same : r.recorded call.key = s.recorded call.key) :
    (r.step call).2 = (s.step call).2 ∧
      (r.step call).1.recorded call.key = (s.step call).1.recorded call.key := by
  cases call with
  | failed key =>
    obtain ⟨answer, kept⟩ := fail_congr limits same
    exact ⟨congrArg (Entry.failed key) answer, kept⟩
  | reset key => exact ⟨rfl, recorded_forget_self.trans recorded_forget_self.symm⟩

theorem streak_other {entry : Entry} {earlier : List Entry} (different : key ≠ entry.key) :
    streak key (entry :: earlier) = streak key earlier := by
  cases entry with
  | failed other answer => exact if_neg (Ne.symm different)
  | reset other => exact if_neg (Ne.symm different)

end

section

variable {limit : Nat} {key : String}

theorem limit_after (limit : Nat) (calls : List Call) : (after limit calls).limit = limit := by
  induction calls with
  | nil => rfl
  | cons call earlier ih => exact limit_step.trans ih

/-- The number that the next failure of a key has in its streak. -/
def nextFailure (limit : Nat) (calls : List Call) (key : String) : Nat :=
  (streak key (log limit calls)).length + 1

/-- As many failures are recorded for a key as its streak has delays, and these double. The first
delay of the streak is the last one here. -/
theorem recorded_after (bounded : limit + 1 < limit32) (calls : List Call) (key : String) :
    ((after limit calls).recorded key).toNat = (streak key (log limit calls)).length ∧
      (streak key (log limit calls)).length ≤ limit ∧
      streak key (log limit calls) = ((List.range (streak key (log limit calls)).length).map
        fun n => Duration.ofSeconds (min (5 * 2 ^ n) 300)).reverse := by
  -- The number that is recorded is the length of the streak, and the length determines the delays.
  induction calls with
  | nil => exact ⟨rfl, Nat.zero_le limit, rfl⟩
  | cons call earlier ih =>
    obtain ⟨counted, few, delays⟩ := ih
    by_cases different : key ≠ call.key
    · simpa only [after, log, streak_other (key_step.symm ▸ different),
        recorded_step_other different] using ⟨counted, few, delays⟩
    cases call with
    | reset other =>
      obtain rfl : key = other := not_not.mp different
      simp [after, log, step, streak, recorded_forget_self]
    | failed other =>
      obtain rfl : key = other := not_not.mp different
      have limits := limit_after limit earlier
      rcases fail_cases (by rwa [limits]) counted (by rwa [limits]) with
        ⟨left, answer, kept⟩ | ⟨_, answer, kept⟩
      · rw [limits] at left
        simp only [after, log, step, streak, answer, if_true, List.length_cons]
        refine ⟨kept, left, ?_⟩
        rw [List.range_succ, List.map_append, List.reverse_append, ← delays]
        rfl
      · simp [after, log, step, streak, answer, kept]

theorem pairwise_streak (bounded : limit + 1 < limit32) (calls : List Call) (key : String) :
    (streak key (log limit calls)).Pairwise fun later earlier => earlier.nanos ≤ later.nanos := by
  rw [(recorded_after bounded calls key).2.2, List.pairwise_reverse, List.pairwise_map]
  refine List.pairwise_lt_range.imp fun {m n} before => ?_
  have grown : 2 ^ m ≤ 2 ^ n := Nat.pow_le_pow_right (by omega) (Nat.le_of_lt before)
  simp only [Duration.ofSeconds]
  omega

/-- A key is answered, and its failures are recorded, as if there were no other keys. -/
theorem alone_after (calls : List Call) (key : String) :
    (log limit calls).filter (·.key = key) = log limit (calls.filter (·.key = key)) ∧
      (after limit calls).recorded key = (after limit (calls.filter (·.key = key))).recorded key := by
  induction calls with
  | nil => exact ⟨rfl, rfl⟩
  | cons call earlier ih =>
    obtain ⟨answered, recorded⟩ := ih
    by_cases same : call.key = key
    · subst same
      obtain ⟨answer, kept⟩ := step_congr ((limit_after limit _).trans (limit_after limit _).symm) recorded
      simp [after, log, answered, answer, kept]
    · simp [after, log, same, answered, recorded, recorded_step_other (Ne.symm same)]

end

/-- The answer to a failure depends on its number in the streak of its key alone. Up to the limit the
key is tried again, after five seconds that double with each failure and are at most five minutes;
the failure after that drops the key, which then starts anew. -/
theorem fail_by_streak (limit : Nat) (bounded : limit < limit32 - 1) (calls : List Call)
    (key : String) :
    ((after limit calls).count key + 1 = nextFailure limit calls key ∧
      nextFailure limit calls key ≤ limit + 1) ∧
    (nextFailure limit calls key ≤ limit → ((after limit calls).fail key).2 =
      some (.ofSeconds (min (5 * 2 ^ (nextFailure limit calls key - 1)) 300))) ∧
    (nextFailure limit calls key = limit + 1 → ((after limit calls).fail key).2 = none ∧
      ((after limit calls).fail key).1.count key = 0) ∧
    ((streak key (log limit calls)).Pairwise fun later earlier => earlier.nanos ≤ later.nanos) ∧
    (streak key (log limit calls)).length ≤ limit ∧
    (log limit calls).filter (·.key = key) = log limit (calls.filter (·.key = key)) ∧
    (after limit calls).count key + 1 < limit32 ∧
    ∀ failures : UInt32, (doublings failures).toNat < 32 ∧
      (factor failures).toNat = 2 ^ (doublings failures).toNat ∧
      (shortest.times (factor failures).toNat).IsRepresentable := by
  -- The answer to a failure is known from the number recorded, which is the length of the streak.
  have room : limit + 1 < limit32 := by omega
  obtain ⟨counted, few, _⟩ := recorded_after room calls key
  have limits := limit_after limit calls
  have cases' := fail_cases (by rwa [limits]) counted (by rwa [limits])
  rw [limits] at cases'
  refine ⟨⟨congrArg (· + 1) counted, Nat.succ_le_succ few⟩, fun left => ?_, fun spent => ?_,
    pairwise_streak room calls key, few, (alone_after calls key).1, ?_, fun failures =>
      ⟨Nat.lt_of_le_of_lt toNat_doublings_le (by decide), toNat_factor, isRepresentable_times_factor⟩⟩
  · rcases cases' with ⟨_, answer, _⟩ | ⟨full, _, _⟩
    · exact answer
    · exact absurd left (by simp only [nextFailure]; omega)
  · rcases cases' with ⟨some, _, _⟩ | ⟨_, answer, fresh⟩
    · exact absurd spent (by simp only [nextFailure]; omega)
    · exact ⟨answer, fresh⟩
  · have next : (after limit calls).count key + 1 ≤ limit + 1 := Nat.succ_le_succ (counted.trans_le few)
    exact Nat.lt_of_le_of_lt next room

/-- Two keys in turns, from the last call back; one of them has succeeded in between. -/
def turns : List Call :=
  [.failed "Deployment/api", .failed "Deployment/db", .failed "Deployment/api",
    .reset "Deployment/db", .failed "Deployment/db"]

/-- The key that has failed twice is dropped, and the other one goes on. -/
theorem fail_by_streak_turns : 2 < limit32 - 1 ∧
    nextFailure 2 turns "Deployment/api" = 3 ∧
    ((after 2 turns).fail "Deployment/api").2 = none ∧
    ((after 2 turns).fail "Deployment/api").1.count "Deployment/api" = 0 ∧
    nextFailure 2 turns "Deployment/db" = 2 ∧
    ((after 2 turns).fail "Deployment/db").2 = some (.ofSeconds 10) := by
  have bounded : 2 < limit32 - 1 := by decide
  have third : nextFailure 2 turns "Deployment/api" = 3 := by decide
  have second : nextFailure 2 turns "Deployment/db" = 2 := by decide
  obtain ⟨_, _, drops, _⟩ := fail_by_streak 2 bounded turns "Deployment/api"
  obtain ⟨_, again, _⟩ := fail_by_streak 2 bounded turns "Deployment/db"
  refine ⟨bounded, third, (drops third).1, (drops third).2, second, ?_⟩
  have answer := again (by omega)
  rwa [second] at answer

end ClusterBackup.Requeues
