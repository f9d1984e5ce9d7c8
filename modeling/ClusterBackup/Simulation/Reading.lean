import ClusterBackup.Simulation.Scenario

/-! Scenarios in JSON: options, failures, prescribed reactions, the objects of a world, and the
steps that are done to it. -/

set_option autoImplicit false

namespace ClusterBackup.Simulation.Reading

open Cluster

abbrev Members := Json.Members

def string (m : Members) (name : String) : Option String := m.required name Json.text?

def stringOr (m : Members) (name default : String) : Option String := m.lenient name default Json.text?

def stringList (j : Json) : Option (List String) := Json.list? Json.text? j

def natural? (j : Json) : Option Nat := (j.within? 0 (Number.limit64 - 1)).map Int.toNat

def millis (m : Members) (name : String) : Option Duration := do
  return Duration.ofMillis (← m.required name natural?)

/-- A duration in milliseconds, or in seconds and nanoseconds. -/
def durationIn (m : Members) : Option Duration := do
  match ← m.optional "ms" natural? with
  | some n => return Duration.ofMillis n
  | none =>
    let seconds ← Number.natBelow? Number.limit64 (← string m "secs")
    let nanos ← m.lenient "nanos" 0 natural?
    if nanos < 1000000000 then some ⟨seconds * 1000000000 + nanos⟩ else none

def duration? (j : Json) : Option Duration := j.members?.bind durationIn

def time (m : Members) (name : String) : Option Instant := m.required name Instant.ofJson?

def kindOf (m : Members) : Option WorkloadKind := do
  let name ← string m "kind"
  WorkloadKind.all.find? fun kind => kind.name = name

/-- A failure by its kind; what is not said is empty or 0. -/
def failureOf (m : Members) : Option Failure := do
  let text (name : String) := stringOr m name ""
  let number (name : String) := m.lenient name 0 Json.nat32?
  let apiError : Option ApiError := do
    let code ← m.lenient "code" 0 fun j => (j.within? 0 65535).map Int.toNat
    return ⟨← text "status", ← text "message", ← text "reason", code⟩
  match ← string m "kind" with
  | "Client" => return .client (← text "message")
  | "Conflict" => return .conflict (← text "message")
  | "Validation" => return .validation (← text "message")
  | "Timeout" => return .timeout (← text "message")
  | "Serialization" => return .serialization (← text "message")
  | "Metrics" => return .metrics (← text "message")
  | "NotFound" => return .notFound (← text "object") (← text "namespace") (← text "name")
  | "InvalidSchedule" => return .invalidSchedule (← text "expression") (← text "reason")
  | "MissingSecret" => return .missingSecret (← text "namespace") (← text "name")
  | "ReconcileExhausted" => return .exhausted (← text "operation") (← number "attempts")
  | "Busy" => return .busy (← text "holder")
  | "Restic" => return .tool (← text "command") (← text "message")
  | "Api" => return .api (← apiError)
  | "ApiWrite" => return .ofWrite (← apiError)
  | _ => none

def failure? (j : Json) : Option Failure := j.members?.bind failureOf

def optionsIn (base : Options) (m : Members) : Option Options := do
  return {
    scratchDirectory := ← stringOr m "scratch_dir" base.scratchDirectory
    pushUrl := ← stringOr m "pushgateway_url" base.pushUrl
    metrics := ← m.lenient "metrics_enabled" base.metrics Json.bool?
    cache := ← m.lenient "enable_cache" base.cache Json.bool?
    connections := ← m.lenient "max_connections" base.connections Json.nat32?
    resync := ← m.lenient "resync_ms" base.resync fun j => (natural? j).map Duration.ofMillis
    maxRequeues := ← m.lenient "max_num_requeues" base.maxRequeues Json.nat32?
    threads := ← m.lenient "num_threads" base.threads fun j => (j.within? 0 65535).map Int.toNat
    image := ← stringOr m "image" base.image
    imageTag := ← stringOr m "image_tag" base.imageTag
    nodeName := ← m.optional "node_name" Json.text?
    podName := ← m.optional "pod_name" Json.text? }

/-- Options with those of a base where nothing is said. -/
def options (base : Options) (m : Members) : Option Options :=
  m.lenient "options" [] Json.members? >>= optionsIn base

/-- A number that is not negative, rounded. -/
def number64? : Json → Option Number.Binary64
  | .integer n => if 0 ≤ n then Number.Binary64.ofNat n.toNat else none
  | .float negative size => if negative ∧ size.significand ≠ 0 then none else some size
  | _ => none

def policyIn (m : Members) : Option RetryPolicy := do
  let limit ← m.optional "max_attempts" Json.nat32?
  let base : RetryPolicy ← match ← stringOr m "base" "conflict" with
    | "conflict" => some .conflict
    | "infinite" => some .unlimited
    | "attempts" => some (.limited (limit.getD 0))
    | _ => none
  let initial ← m.optional "initial_ms" natural?
  let longest ← m.optional "max_ms" natural?
  return {
    attempts := limit.getD base.attempts
    initial := (initial.map Duration.ofMillis).getD base.initial
    longest := (longest.map Duration.ofMillis).getD base.longest
    multiplier := ← m.lenient "multiplier" base.multiplier fun j => (number64? j).map some }

def policy (m : Members) (name : String) : Option RetryPolicy :=
  m.lenient name [] Json.members? >>= policyIn

def reaction (j : Json) : Option Reaction := do
  let m ← j.members?
  let milliseconds ← m.lenient "ms" 0 natural?
  match ← m.optional "fail" Json.text? with
  | some message => return ⟨milliseconds, .error message⟩
  | none => return ⟨milliseconds, .ok (← stringOr m "out" "")⟩

def scripts (m : Members) (name : String) : Option (List Script) := do
  (← m.lenient name [] Json.members?).mapM fun (command, entries) =>
    return { command, reactions := ← Json.list? reaction entries }

def dictionary (m : Members) (name : String) : Option Dictionary := m.lenient name .empty Dictionary.ofJson?

def config? : Json → Option Configuration := Resource.ofJson? .configuration

def fault? (j : Json) : Option Fault := do
  let m ← j.members?
  return {
    method := ← string m "method"
    skip := ← m.lenient "skip" 0 natural?
    times := ← m.lenient "times" 1 natural?
    failure := ← m.optional "error" failure? }

def files (m : Members) : Option Files := do
  let entries ← m.lenient "files" [] Json.members?
  entries.foldlM (fun (files : Files) (path, content) => return files.place path (← content.text?)) {}

def labelled? (label : String) : Option ResourceKind :=
  ResourceKind.all.find? fun kind => Scenario.label kind = label

def stored? (label : String) (j : Json) : Option Stored := do
  let kind ← labelled? label
  return ⟨kind, ← Resource.ofJson? kind j⟩

def place (m : Members) : Option Place := do
  return ⟨← stringOr m "namespace" "", ← stringOr m "name" ""⟩

def event? (m : Members) : Option WatchEvent := do
  match ← string m "event" with
  | "apply" => some .apply
  | "init_apply" => some .initApply
  | "delete" => some .delete
  | "init" => some .init
  | "init_done" => some .initDone
  | _ => none

def source {kind : ResourceKind} (m : Members) (name : String) (place : Option Place) :
    Option (Source (Resource kind)) := do
  match ← m.optional name (Resource.ofJson? kind) with
  | some object => return .given object
  | none => return .stored (← place)

def hostIn (m : Members) : Option (Except Failure Host) := do
  let name ← string m "name"
  let pod ← string m "pod"
  let node ← string m "node"
  return (WorkloadKind.parse (← string m "kind")).map fun kind => Host.derive kind name pod node

def stepHost (m : Members) : Option (Option Host) :=
  m.optional "host" fun j => do
    match ← hostIn (← j.members?) with
    | .ok host => some host
    | .error _ => none

def patience? (m : Members) : Option (Option Snapshots.Patience) := do
  match ← m.optional "timeout_ms" natural?, ← m.optional "poll_ms" natural? with
  | some timeout, some interval => return some ⟨Duration.ofMillis timeout, Duration.ofMillis interval⟩
  | _, _ => return none

def fire? (m : Members) : Option (Place × Instant) := do return (← place m, ← time m "at")

def putStep (m : Members) : Option Step := do
  let object ← m.get? "object"
  match ← string m "type" with
  | "secret" => return .putSecret (← Secret.ofJson? object)
  | "workload" => return .putWorkload (← Workload.ofJson? (← kindOf m) object)
  | type => return .put (← stored? type object)

def deleteStep (m : Members) : Option Step := do
  let place ← place m
  match ← string m "type" with
  | "secret" => return .deleteSecret place
  | "workload" => return .deleteWorkload (← kindOf m) place
  | type => return .delete (← labelled? type) place

def step? (j : Json) : Option Step := do
  let m ← j.members?
  let here := place m
  match ← string m "do" with
  | "run_once" => return .runOnce (← stepHost m) (← here) (← time m "at")
  | "run_session" => return .runSession (← stepHost m) (← here)
  | "session_event" =>
    return .sessionEvent (← stepHost m) (← string m "configuration") (← event? m)
      (← source m "session" here)
  | "restore" => return .restore (← stepHost m) (← here)
  | "check" => return .check (← here)
  | "create_vs" =>
    return .takeSnapshots (← here) (← time m "at") ⟨← millis m "timeout_ms", ← millis m "poll_ms"⟩
  | "configure" => return .configure (← source m "config" here)
  | "config_event" => return .configurationEvent (← event? m) (← source m "config" here)
  | "resync" => return .resync (← here)
  | "expression" => return .expression (← string m "key")
  | "unschedule" => return .unschedule (← string m "key")
  | "shutdown" => return .shutdown
  | "fire" =>
    let (place, time) ← fire? m
    return .fire place time
  | "fire_all" => return .fireAll (← m.required "fires" (Json.list? fun j => j.members?.bind fire?))
  | "advance" => return .advance (← millis m "ms")
  | "reconcile" => return .reconcile (← kindOf m) (← here)
  | "ensure_sidecar" =>
    let named : Option Place := do
      return ⟨← stringOr m "config_namespace" "", ← stringOr m "config_name" ""⟩
    return .ensureSidecar (← kindOf m) (← here) (← source m "config" named) (← patience? m)
  | "ensure_removed" => return .ensureRemoved (← kindOf m) (← here) (← patience? m)
  | "record_backup" => return .recordRun (← here) (← time m "at") (← m.required "took" duration?)
  | "record_repository" =>
    return .recordRepositoryRun (← here) (← time m "at") (← m.required "took" duration?)
      (← m.lenient "removed" 0 Json.int64?)
  | "record_check" =>
    return .recordCheck (← here) (← m.required "integrity" Json.bool?)
      (← m.optional "count" Json.int64?) (← m.optional "size" Json.text?)
  | "reset_schedule" => return .clearSchedule (← here)
  | "backup_host" =>
    return .reportHost .backup (← here) (← m.required "entry" HostEntry.ofJson?)
      (← m.optional "total" Json.int32?)
  | "restore_host" =>
    return .reportHost .restore (← here) (← m.required "entry" HostEntry.ofJson?)
      (← m.optional "total" Json.int32?)
  | "host_phase" => return .hostPhase (← here) (← string m "hostname")
  | "put" => putStep m
  | "delete" => deleteStep m
  | "restic" => return .script (← scripts m "script")
  | "fault" => return .fault (← fault? j)
  | _ => none

def seed (w : World) (j : Json) : Option World := do
  let m ← j.members?
  let object ← m.get? "object"
  match ← string m "type" with
  | "secret" => return { w with store := w.store.putSecret (← Secret.ofJson? object) }
  | type =>
    let ⟨kind, object⟩ ← stored? type object
    return { w with store :=
      if kind = .snapshot then w.store.put kind object else (w.store.accept kind object).2 }

def seedWorkload (w : World) (j : Json) : Option World := do
  let m ← j.members?
  let workload ← m.required "object" (Workload.ofJson? (← kindOf m))
  return { w with workloads := w.workloads.put workload }

def rolloutRule : Json → Option RolloutRule
  | .string "auto" => some .onReplace
  | .string "never" => some .never
  | j => do return .afterGets (← (← j.members?).required "after_gets" natural?)

def podRule : Json → Option PodRule
  | .string "mirror" => some .ofWorkload
  | j => do return .lists (← Json.list? (Json.list? Pod.ofJson?) j)

def drivers (m : Members) : Option (List Driver) := do
  (← m.lenient "csi" [] Json.members?).mapM fun (claim, j) => do
    let m ← j.members?
    return {
      claim
      after := ← m.lenient "after" 1 natural?
      status := ← m.required "status" SnapshotStatus.ofJson? }

/-- The identity that a process finds for itself, with the pod asked for before the node. -/
def ownHost (options : Options) (m : Members) : Option (Except Failure Host) := do
  let name ← string m "name"
  let kind ← WorkloadKind.parse (← string m "kind") |>.toOption
  return do
    let pod ← options.requirePodName
    let node ← options.requireNodeName
    return Host.derive kind name pod node

/-- A world; its host may be one that cannot be found out. -/
def world (base : Options) (m : Members) : Option (Except Failure World) := do
  let options ← options base m
  let host ← match ← m.optional "host" Json.members? with
    | none => some (.ok (Host.derive .deployment "db" "db-7d9f-x2" "node-1"))
    | some h => ownHost options h
  match host with
  | .error f => return .error f
  | .ok host =>
    let w := World.empty { options, policy := ← policy m "retry" } host
    let w ← (← m.lenient "objects" [] (Json.list? some)).foldlM seed w
    let w ← (← m.lenient "workloads" [] (Json.list? some)).foldlM seedWorkload w
    let workloads := { w.workloads with
      rollout := ← m.lenient "rollout" .onReplace rolloutRule
      pods := ← m.lenient "pods" .ofWorkload podRule }
    return .ok { w with
      workloads
      files := ← files m
      faults := ← m.lenient "faults" [] (Json.list? fault?)
      drivers := ← drivers m
      scripts := ← scripts m "restic" }

end ClusterBackup.Simulation.Reading
