import ClusterBackup.Failure

/-! Calls that are made to fail. -/

set_option autoImplicit false

namespace ClusterBackup.Simulation

/-- Of the calls of a method some pass, and then some fail. Without a failure they find
nothing. -/
structure Fault where
  method : String
  skip : Nat := 0
  times : Nat := 1
  failure : Option Failure := none
  deriving DecidableEq, Repr

inductive Verdict where
  | pass
  | nothing
  | fail (failure : Failure)
  deriving DecidableEq, Repr

/-- The first fault of a method that is not used up decides on a call. -/
def verdict (method : String) : List Fault → Verdict × List Fault
  | [] => (.pass, [])
  | f :: rest =>
    if f.method = method ∧ 0 < f.times then
      if 0 < f.skip then (.pass, { f with skip := f.skip - 1 } :: rest)
      else
        let verdict := match f.failure with
          | some failure => Verdict.fail failure
          | none => Verdict.nothing
        (verdict, { f with times := f.times - 1 } :: rest)
    else
      let (v, rest) := verdict method rest
      (v, f :: rest)

end ClusterBackup.Simulation
