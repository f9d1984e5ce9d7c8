import ClusterBackup.Number.Shortest
import ClusterBackup.Time.Duration
import ClusterBackup.Text.Scan

/-! Gauges of one session, and the text in which they are pushed. -/

set_option autoImplicit false

namespace ClusterBackup

/-- One operation on one file group. -/
structure Measured where
  group : String
  operation : String
  deriving DecidableEq, Repr

structure Metrics where
  succeeded : Bool := false
  failed : Bool := false
  total : Duration := ⟨0⟩
  durations : List (Measured × Duration) := []
  deriving DecidableEq, Repr, Inhabited

namespace Metrics

/-- Values of labels have no slash. -/
def labelValue (s : String) : String := Text.replaceChar '/' '|' s

def before (a b : Measured) : Bool :=
  decide (a.group < b.group) || (a.group == b.group && decide (a.operation < b.operation))

/-- Gauges are told apart by their labels joined into one text. -/
def isSame (a b : Measured) : Bool := a.group ++ a.operation == b.group ++ b.operation

def insert (m : Measured) (took : Duration) : List (Measured × Duration) → List (Measured × Duration)
  | [] => [(m, took)]
  | (k, d) :: rest => if before m k then (m, took) :: (k, d) :: rest else (k, d) :: insert m took rest

/-- The gauge of a measurement gets its new duration, and a new gauge is made if there is none. -/
def put (m : Measured) (took : Duration) (durations : List (Measured × Duration)) :
    List (Measured × Duration) :=
  if durations.any fun (k, _) => isSame k m then
    durations.map fun (k, d) => if isSame k m then (k, took) else (k, d)
  else insert m took durations

def observe (m : Metrics) (group operation : String) (took : Duration) : Metrics :=
  { m with durations := put ⟨labelValue group, operation⟩ took m.durations }

def finish (m : Metrics) (succeeded : Bool) (took : Duration) : Metrics :=
  { m with succeeded, failed := ! succeeded, total := took }

def escapeLabel (c : Char) : List Char :=
  match c with
  | '\\' => ['\\', '\\']
  | '\n' => ['\\', 'n']
  | '"' => ['\\', '"']
  | c => [c]

def quoteLabel (s : String) : String :=
  "\"" ++ String.ofList (s.toList.flatMap escapeLabel) ++ "\""

def secondsText (d : Duration) : String := (d.toFloating.map Number.Binary64.text).getD "inf"

def family (name help : String) (samples : List (String × String)) : String :=
  "# HELP " ++ name ++ " " ++ help ++ "\n# TYPE " ++ name ++ " gauge\n"
    ++ String.join (samples.map fun (labels, value) => name ++ labels ++ " " ++ value ++ "\n")

def flagText (b : Bool) : String := if b then "1" else "0"

def durationLabels (m : Measured) : String :=
  "\x7bfilegroup=" ++ quoteLabel m.group ++ ",op=" ++ quoteLabel m.operation ++ "\x7d"

/-- Families in the order of their names; one without samples is left out. -/
def text (m : Metrics) : String :=
  (if m.durations.isEmpty then ""
    else family "restic_session_duration_seconds" "Seconds taken by one operation of the session"
      (m.durations.map fun (k, d) => (durationLabels k, secondsText d)))
  ++ family "restic_session_duration_seconds_total" "Total seconds taken to complete restic session"
      [("", secondsText m.total)]
  ++ family "restic_session_fail" "Indicates if session failed" [("", flagText m.failed)]
  ++ family "restic_session_success" "Indicates if session was successfully completed"
      [("", flagText m.succeeded)]

/-- Where the metrics of a job and host are pushed to. -/
def url (base job host : String) : String :=
  Text.trimRightChar '/' base ++ "/metrics/job/" ++ job ++ "/hostname/" ++ host

end Metrics

end ClusterBackup
