import ClusterBackup.Failure
import ClusterBackup.Program
import ClusterBackup.Time.Duration

/-! Trying again: after any failure with growing delays, after conflicting writes, and until
a condition holds. -/

set_option autoImplicit false

namespace ClusterBackup

open Number

/-- Requests among which there are those of a clock. -/
class Timed (ρ : Type → Type) where
  now : ρ Duration
  sleep : Duration → ρ Unit

structure RetryPolicy where
  /-- The number of attempts; 0 is no limit. -/
  attempts : Nat
  initial : Duration
  longest : Duration
  /-- What a delay is multiplied with for the next one; `none` is infinite. -/
  multiplier : Option Binary64
  deriving DecidableEq, Repr

namespace RetryPolicy

def one : Binary64 := ⟨1, 0⟩

def two : Binary64 := ⟨2, 0⟩

/-- Without a limit: from 100 milliseconds doubling to half a minute. -/
def unlimited : RetryPolicy := ⟨0, .ofMillis 100, .ofSeconds 30, some two⟩

def limited (attempts : Nat) : RetryPolicy := { unlimited with attempts }

/-- For conflicting writes: three attempts, ten milliseconds apart. -/
def conflict : RetryPolicy := ⟨3, .ofMillis 10, .ofMillis 10, some one⟩

def isExhausted (p : RetryPolicy) (attempt : Nat) : Bool :=
  0 < p.attempts && p.attempts ≤ attempt

/-- The delay after a delay, in floating seconds. An infinite multiple is longer than the
longest delay, also of no delay at all. -/
def after (p : RetryPolicy) (delay : Duration) : Duration :=
  let next := do
    let longest ← p.longest.toFloating
    let current ← delay.toFloating
    Duration.ofFloating (Binary64.minimum (p.multiplier.bind current.mul) longest)
  next.getD p.longest

end RetryPolicy

section

variable {ρ : Type → Type} [Timed ρ]

open Program

/-- Repeats an operation after any failure. The last failure is the result when the attempts
are used up. -/
def retryAlways {α : Type} (policy : RetryPolicy) (operation : Program ρ (Except Failure α)) :
    Program ρ (Except Failure α) :=
  repeating (1, policy.initial) fun (attempt, delay) => do
    match ← operation with
    | .ok a => return .inr (.ok a)
    | .error failure =>
      if policy.isExhausted attempt then return .inr (.error failure)
      else
        ask (Timed.sleep delay)
        return .inl (attempt + 1, policy.after delay)

/-- Repeats an operation after conflicts only. Attempts are counted from 1 and hand on what
they remember. -/
def retryConflicts {α μ : Type} (policy : RetryPolicy) (name : String) (memory : μ)
    (operation : Nat → μ → Program ρ (Except Failure α × μ)) : Program ρ (Except Failure α × μ) :=
  repeating (1, policy.initial, memory) fun (attempt, delay, memory) => do
    match ← operation attempt memory with
    | (.ok a, memory) => return .inr (.ok a, memory)
    | (.error failure, memory) =>
      if ! failure.isConflict then return .inr (.error failure, memory)
      else if policy.isExhausted attempt then return .inr (.error (.exhausted name attempt), memory)
      else
        ask (Timed.sleep delay)
        return .inl (attempt + 1, policy.after delay, memory)

/-- Reads an object, changes it and writes it back, again from the start after a conflict.

An object that is gone gives no result. A change that says so is not written. The flag tells
whether the last change that was made had something to write; it says nothing about the
write. -/
def readChangeWrite {α : Type} (policy : RetryPolicy) (name : String)
    (read : Program ρ (Except Failure (Option α))) (write : α → Program ρ (Except Failure α))
    (change : α → α × Bool) : Program ρ (Except Failure (Option α) × Bool) :=
  retryConflicts policy name false fun _ flag => do
    match ← read with
    | .error failure => return (.error failure, flag)
    | .ok none => return (.ok none, flag)
    | .ok (some object) =>
      match change object with
      | (changed, false) => return (.ok (some changed), false)
      | (changed, true) => match ← write changed with
        | .error failure => return (.error failure, true)
        | .ok written => return (.ok (some written), true)

/-- Asks at intervals until there is an answer; a failure is none. It is a timeout if the next
question would come after the deadline. -/
def pollFor {α : Type} (timeout interval : Duration) (message : String)
    (check : Program ρ (Except Failure (Option α))) : Program ρ (Except Failure α) := do
  let start ← ask Timed.now
  let deadline : Duration := ⟨start.nanos + timeout.nanos⟩
  repeating () fun () => do
    match ← check with
    | .ok (some answer) => return .inr (.ok answer)
    | .ok none | .error _ =>
      let now ← ask (Timed.now (ρ := ρ))
      if deadline.nanos < now.nanos + interval.nanos then return .inr (.error (.timeout message))
      else
        ask (Timed.sleep interval)
        return .inl ()

def pollUntil (timeout interval : Duration) (message : String)
    (check : Program ρ (Except Failure Bool)) : Program ρ (Except Failure Unit) :=
  pollFor timeout interval message do
    return (← check).map fun answer => if answer then some () else none

end

end ClusterBackup
