import ClusterBackup.Json.Shape

/-! Which snapshots of a path are kept. -/

set_option autoImplicit false

namespace ClusterBackup

open Json

structure Retention where
  last : Option Nat := none
  hourly : Option Nat := none
  daily : Option Nat := none
  weekly : Option Nat := none
  monthly : Option Nat := none
  yearly : Option Nat := none
  tags : List String := []
  prune : Bool := false
  dryRun : Bool := false
  deriving DecidableEq, Repr, Inhabited

namespace Retention

def keeps (r : Retention) : List (String × Nat) :=
  [ ("--keep-last", r.last), ("--keep-hourly", r.hourly), ("--keep-daily", r.daily),
    ("--keep-weekly", r.weekly), ("--keep-monthly", r.monthly), ("--keep-yearly", r.yearly) ].filterMap
    fun (option, count) => (count.filter (0 < ·)).map (option, ·)

/-- Nothing is asked to be kept, so nothing is forgotten. -/
def isEmpty (r : Retention) : Bool := r.keeps.isEmpty && r.tags.isEmpty

def shape : Shape :=
  .record "RetentionPolicy"
    (Shape.each (.whole unsigned32)
        ["keepLast", "keepHourly", "keepDaily", "keepWeekly", "keepMonthly", "keepYearly"]
      ++ [Shape.dft "keepTags" (.many .text), Shape.dft "prune" .flag, Shape.dft "dryRun" .flag])

def ofJson? (j : Json) : Option Retention := do
  let members ← record? ["keepLast", "keepHourly", "keepDaily", "keepWeekly", "keepMonthly",
    "keepYearly", "keepTags", "prune", "dryRun"] j
  return {
    last := ← members.optional "keepLast" nat32?
    hourly := ← members.optional "keepHourly" nat32?
    daily := ← members.optional "keepDaily" nat32?
    weekly := ← members.optional "keepWeekly" nat32?
    monthly := ← members.optional "keepMonthly" nat32?
    yearly := ← members.optional "keepYearly" nat32?
    tags := ← members.defaulted "keepTags" [] (list? text?)
    prune := ← members.defaulted "prune" false bool?
    dryRun := ← members.defaulted "dryRun" false bool? }

def toJson (r : Retention) : Json :=
  .object (member? "keepLast" .nat r.last ++ member? "keepHourly" .nat r.hourly
    ++ member? "keepDaily" .nat r.daily ++ member? "keepWeekly" .nat r.weekly
    ++ member? "keepMonthly" .nat r.monthly ++ member? "keepYearly" .nat r.yearly
    ++ memberUnlessEmpty "keepTags" .string r.tags
    ++ [("prune", .bool r.prune), ("dryRun", .bool r.dryRun)])

end Retention

end ClusterBackup
