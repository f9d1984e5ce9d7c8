import ClusterBackup.Time.Duration

/-! Failures in a row by key. A key is tried again after a growing delay, until it has
failed too often.

Failures are counted, and delays multiplied, in words of 32 bits. -/

set_option autoImplicit false

namespace ClusterBackup

structure Requeues where
  limit : Nat
  failures : List (String × UInt32) := []
  deriving DecidableEq, Repr, Inhabited

namespace Requeues

def shortest : Duration := .ofSeconds 5

def longest : Duration := .ofSeconds 300

def recorded (r : Requeues) (key : String) : UInt32 :=
  ((r.failures.find? (·.1 == key)).map (·.2)).getD 0

def count (r : Requeues) (key : String) : Nat := (r.recorded key).toNat

def forget (r : Requeues) (key : String) : Requeues :=
  { r with failures := r.failures.filter (·.1 != key) }

/-- How often the shortest delay is doubled. A word has more bits than that. -/
def doublings (failures : UInt32) : UInt32 := min (failures - 1) 16

def factor (failures : UInt32) : UInt32 := 1 <<< doublings failures

/-- Five seconds after the first failure, and twice as long after each further one, at most
five minutes. -/
def delay (failures : UInt32) : Duration :=
  (shortest.times (factor failures).toNat).minimum longest

/-- One failure more, and the delay until the next attempt. A key that has used up its
attempts is dropped and starts anew. -/
def fail (r : Requeues) (key : String) : Requeues × Option Duration :=
  let count := r.recorded key + 1
  if r.limit < count.toNat then (r.forget key, none)
  else ({ r with failures := (key, count) :: (r.forget key).failures }, some (delay count))

end Requeues

end ClusterBackup
