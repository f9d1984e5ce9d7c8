import ClusterBackup.Simulation.Scenario

/-! What scenarios show, in JSON. -/

set_option autoImplicit false

namespace ClusterBackup.Simulation.Report

open Cluster

abbrev Members := Json.Members

def text (s : String) : Json := .string s

def optional {α : Type} (write : α → Json) : Option α → Json
  | some a => write a
  | none => .null

def failureKind : Failure → String
  | .api _ | .answer _ => "Kube"
  | .client _ => "Client"
  | .conflict _ => "Conflict"
  | .notFound .. => "NotFound"
  | .validation _ => "Validation"
  | .invalidSchedule .. => "InvalidSchedule"
  | .missingSecret .. => "MissingSecret"
  | .exhausted .. => "ReconcileExhausted"
  | .busy _ => "Busy"
  | .tool .. => "Restic"
  | .timeout _ => "Timeout"
  | .files _ => "Io"
  | .serialization _ => "Serialization"
  | .metrics _ => "Metrics"

def failureMembers (f : Failure) : Members :=
  [("error", text (failureKind f)), ("message", text f.message)]

def failureJson (f : Failure) : Json := .object (failureMembers f)

def result {α : Type} (write : α → Json) : Except Failure α → Json
  | .ok a => write a
  | .error f => failureJson f

def ok : Unit → Json := fun () => text "ok"

def durationJson (d : Duration) : Json :=
  .object [("secs", text (Number.textOf d.seconds)), ("nanos", .nat d.subsecond)]

def optionsJson (o : Options) : Json :=
  .object [("scratch_dir", text o.scratchDirectory), ("pushgateway_url", text o.pushUrl),
    ("metrics_enabled", .bool o.metrics), ("enable_cache", .bool o.cache),
    ("max_connections", .nat o.connections), ("resync_period", durationJson o.resync),
    ("max_num_requeues", .nat o.maxRequeues), ("num_threads", .nat o.threads),
    ("image", text o.image), ("image_tag", text o.imageTag),
    ("node_name", optional text o.nodeName), ("pod_name", optional text o.podName)]

def nextJson : Watch.Next → Json
  | .awaitChange => text "await_change"
  | .after delay => .object [("requeue", text delay.describe)]

def fireJson : Cron.FireOutcome → Json
  | .ran => text "ran"
  | .skipped holder => .object [("skipped", text holder)]

def answerJson : Answer → Json
  | .done => text "ok"
  | .handled => text "handled"
  | .failed f => failureJson f
  | .text s => optional text s
  | .flag b => .bool b
  | .fired outcome => fireJson outcome
  | .several answers => .array (answers.map answerJson)
  | .reconciled next failures failure =>
    .object ((failure.map failureMembers).getD [] ++ [("action", nextJson next), ("failures", .nat failures)])
  | .configurationStatus status => optional ConfigurationStatus.toJson status
  | .repositoryStatus status => optional RepositoryStatus.toJson status
  | .phase phase => optional Phase.toJson phase

def eventJson (e : Event) : Json :=
  .object [("object", e.object.toJson), ("type", text (if e.warning then "Warning" else "Normal")),
    ("reason", text e.reason), ("action", text e.action), ("note", optional text e.note)]

def callJson : Call → Json
  | .get what => .object [("get", text what)]
  | .replace what => .object [("replace", text what)]
  | .listPods nameSpace selector => .object [("list_pods", .strings [nameSpace, selector])]
  | .deletePods nameSpace selector => .object [("delete_pods", .strings [nameSpace, selector])]

def logJson (calls : List Call) : List Json :=
  if calls.length ≤ 12 then calls.map callJson
  else (calls.take 12).map callJson ++ [.object [("total", .nat calls.length)]]

/-- Times of the calendar are not told apart. -/
def hideToday : Json → Json
  | .object members => .object (hideMembers members)
  | .array xs => .array (hideElements xs)
  | j => j
where
  hideElements : List Json → List Json
    | [] => []
    | x :: xs => hideToday x :: hideElements xs
  hideMembers : Members → Members
    | [] => []
    | (name, value) :: rest =>
      let isTime := ["firstBackupTime", "lastBackupTime", "lastSuccessfulBackupTime"].contains name
      let value := match isTime, (Instant.ofJson? value).map isToday with
        | true, some true => .string "NOW"
        | _, _ => hideToday value
      (name, value) :: hideMembers rest

def shownJson (s : Shown) : Json :=
  let part (name : String) (entries : List Json) : Members :=
    if entries.isEmpty then [] else [(name, .array entries)]
  let calls := s.calls.map fun i =>
    Json.object [("args", .strings i.arguments), ("env", i.bindings.toJson)]
  hideToday (.object ([("result", answerJson s.answer), ("ms", .nat s.clock)]
    ++ part "events" (s.events.map eventJson) ++ part "calls" calls ++ part "cluster" (logJson s.cluster)
    ++ if s.changed.isEmpty then [] else
      [("changed", .object (s.changed.map fun (name, object) => (name, object.getD .null)))]))

end ClusterBackup.Simulation.Report
