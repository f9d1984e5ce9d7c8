import ClusterBackup.Failure

/-! One slot that a backup holds while it runs. Whoever finds it taken is told by whom. -/

set_option autoImplicit false

namespace ClusterBackup

structure Gate where
  holder : Option String := none
  deriving DecidableEq, Repr, Inhabited

namespace Gate

def acquire (g : Gate) (who : String) : Except String Gate :=
  match g.holder with
  | none => .ok ⟨some who⟩
  | some holder => .error holder

def release (_ : Gate) : Gate := {}

end Gate

end ClusterBackup
