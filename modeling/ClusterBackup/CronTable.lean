import ClusterBackup.Gate
import ClusterBackup.Resource.Resource
import ClusterBackup.Schedule

/-! The table of installed schedules, by the key of their configuration. Each entry has a
number of its own, so that a schedule that was replaced can be told from its successor. -/

set_option autoImplicit false

namespace ClusterBackup

structure CronEntry where
  number : Nat
  key : String
  expression : String
  schedule : Schedule
  nameSpace : String
  name : String
  deriving DecidableEq, Repr

structure CronTable where
  entries : List CronEntry := []
  next : Nat := 0
  deriving DecidableEq, Repr, Inhabited

namespace CronTable

def entry? (t : CronTable) (key : String) : Option CronEntry := t.entries.find? (·.key == key)

def expression? (t : CronTable) (key : String) : Option String := (t.entry? key).map (·.expression)

def remove (t : CronTable) (key : String) : CronTable :=
  { t with entries := t.entries.filter (·.key != key) }

def clear (t : CronTable) : CronTable := { t with entries := [] }

def isAlive (t : CronTable) (number : Nat) : Bool := t.entries.any (·.number == number)

/-- What becomes of the table when a configuration is (re)installed. An unchanged expression
keeps its entry, and an empty or invalid one leaves none. -/
inductive Change where
  | kept
  | emptied (table : CronTable)
  | installed (table : CronTable) (entry : CronEntry)
  | refused (table : CronTable) (expression : String) (failure : Failure)

def configure (t : CronTable) (config : Configuration) : Change :=
  let expression := Text.trim config.spec.schedule
  if t.expression? config.key = some expression then .kept
  else
    let removed := t.remove config.key
    if expression = "" then .emptied removed
    else match Schedule.parse expression with
      | .error failure => .refused removed expression failure
      | .ok schedule =>
        let entry : CronEntry :=
          { number := t.next, key := config.key, expression, schedule,
            nameSpace := config.nameSpace, name := config.name }
        .installed { entries := removed.entries ++ [entry], next := t.next + 1 } entry

def Change.table (before : CronTable) : Change → CronTable
  | .kept => before
  | .emptied table | .installed table _ | .refused table _ _ => table

end CronTable

end ClusterBackup
