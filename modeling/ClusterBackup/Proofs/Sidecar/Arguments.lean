import ClusterBackup.CommandLine.Command
import ClusterBackup.Proofs.CommandLine.Given
import ClusterBackup.Proofs.Time.Seconds
import ClusterBackup.Sidecar

/-! The arguments of a sidecar: what its program reads from them of the options of the operator. -/

set_option autoImplicit false

namespace ClusterBackup.Sidecar

open Cluster CommandLine Number

variable {config : Configuration} {kind : WorkloadKind} {workload : String} {options : Options}

/-- The flags that a sidecar is given, in their order. -/
def givenFlags : List Flag :=
  [ { name := "backup-configuration" }, { name := "workload-kind", kind := .workload },
    { name := "workload-name" }, { name := "scratch-dir", kind := .path },
    { name := "enable-cache", kind := .switch, arity := .optional "true" },
    { name := "max-connections", kind := .number limit32 },
    { name := "metrics-enabled", kind := .switch, arity := .optional "true" },
    { name := "pushgateway-url" }, { name := "resync-period", kind := .duration } ]

def givenTexts (config : Configuration) (kind : WorkloadKind) (workload : String)
    (options : Options) : List String :=
  [ config.name, kind.name, workload, scratchPath, boolText options.cache,
    textOf options.connections, boolText options.metrics, options.pushUrl,
    textOf options.resync.seconds ++ "s" ]

def givens (config : Configuration) (kind : WorkloadKind) (workload : String) (options : Options) :
    List Given :=
  List.zipWith Given.mk givenFlags (givenTexts config kind workload options)

def backupFlags : List Flag := Form.backup.flags ++ commonFlags

theorem arguments_eq (periodic : options.resync.isZero = false) :
    arguments config kind workload options =
      "backup" :: (givens config kind workload options).map Given.argument := by
  simp only [arguments, periodic, Bool.false_eq_true, if_false]
  rfl

theorem flags_givens : (givens config kind workload options).map (·.flag) = givenFlags := rfl

theorem takes_of_mem {g : Given} (member : g ∈ givens config kind workload options) :
    g.flag.Takes backupFlags := by
  have all : ∀ flag ∈ givenFlags, flag.Takes backupFlags := by decide
  exact all g.flag (flags_givens ▸ List.mem_map_of_mem member)

theorem readAll_givens (bounded : options.connections < limit32)
    (fits : Nat.log2 options.resync.seconds < 1023) :
    readAll (givens config kind workload options) =
      match Duration.nearestSeconds options.resync.seconds with
      | none => .error .badValue
      | some resync => .ok
        [ ("backup-configuration", .text config.name), ("workload-kind", .workload kind),
          ("workload-name", .text workload), ("scratch-dir", .text scratchPath),
          ("enable-cache", .switch options.cache), ("max-connections", .number options.connections),
          ("metrics-enabled", .switch options.metrics), ("pushgateway-url", .text options.pushUrl),
          ("resync-period", .duration resync) ] := by
  -- Every flag is read as its own kind of value. Only the period may be lost on the way.
  have written (s : String) : ValueKind.text.read s = .ok (.text s) := rfl
  have named : ValueKind.workload.read kind.name = .ok (.workload kind) := by
    cases kind <;> decide
  have mounted : ValueKind.path.read scratchPath = .ok (.text scratchPath) := by decide
  have switched (on : Bool) : ValueKind.switch.read (boolText on) = .ok (.switch on) := by
    cases on <;> rfl
  have counted : (ValueKind.number limit32).read (textOf options.connections) =
      .ok (.number options.connections) := by
    have inside : (options.connections : Int) ≤ limit32 - 1 := by omega
    rw [ValueKind.read, intWithin?_textOf inside]
    rfl
  have timed : ValueKind.duration.read (textOf options.resync.seconds ++ "s") =
      match Duration.nearestSeconds options.resync.seconds with
      | none => .error .badValue
      | some resync => .ok (.duration resync) := by
    rw [ValueKind.read, Duration.parse_seconds fits]
    cases Duration.nearestSeconds options.resync.seconds <;> rfl
  simp only [givens, givenFlags, givenTexts, List.zipWith_cons_cons, List.zipWith_nil_left,
    readAll_cons, readAll_nil, Given.read, written, named, mounted, switched, counted, timed]
  cases Duration.nearestSeconds options.resync.seconds <;> rfl

/-- What a pod tells its container, and that it does not give an empty path. -/
structure Supplied (environment : String → Option String) (nameSpace node pod : String) : Prop where
  inNamespace : environment "POD_NAMESPACE" = some nameSpace
  onNode : environment "NODE_NAME" = some node
  inPod : environment "POD_NAME" = some pod
  reached : environment "KUBECONFIG" ≠ some ""

def otherFlags : List Flag :=
  [ Form.nameSpaceFlag, { name := "offline", kind := .switch, arity := .none }, { name := "master" },
    { name := "kubeconfig", kind := .path, variable' := some "KUBECONFIG" },
    { name := "max-num-requeues", kind := .number limit32 },
    { name := "num-threads", kind := .number limit16 },
    { name := "node-name", variable' := some "NODE_NAME" },
    { name := "pod-name", variable' := some "POD_NAME" } ]

theorem filter_givens : (backupFlags.filter fun flag =>
    ! ((givens config kind workload options).map (·.flag.name)).contains flag.name) = otherFlags := by
  have names : (givens config kind workload options).map (·.flag.name) =
      givenFlags.map Flag.name := rfl
  rw [names]
  decide

theorem readAll_inherited {environment : String → Option String} {nameSpace node pod : String}
    (supplied : Supplied environment nameSpace node pod) :
    readAll (otherFlags.filterMap (Flag.inherited? environment)) = .ok
      (("namespace", .text nameSpace) ::
        ((environment "KUBECONFIG").map fun path => ("kubeconfig", .text path)).toList ++
        [("node-name", .text node), ("pod-name", .text pod)]) := by
  have found : otherFlags.filterMap (Flag.inherited? environment) =
      ⟨Form.nameSpaceFlag, nameSpace⟩ ::
      ((environment "KUBECONFIG").map (Given.mk
        { name := "kubeconfig", kind := .path, variable' := some "KUBECONFIG" })).toList ++
      [⟨{ name := "node-name", variable' := some "NODE_NAME" }, node⟩,
        ⟨{ name := "pod-name", variable' := some "POD_NAME" }, pod⟩] := by
    have reached := supplied.reached
    simp only [otherFlags, Form.nameSpaceFlag, List.filterMap_cons, List.filterMap_nil,
      Flag.inherited?, Option.bind_some, Option.bind_none, Option.map_none, supplied.inNamespace,
      supplied.onNode, supplied.inPod, Option.map_some]
    cases environment "KUBECONFIG" <;> rfl
  rw [found]
  cases told : environment "KUBECONFIG" with
  | none => rfl
  | some path =>
    have present : path ≠ "" := fun empty => supplied.reached (empty ▸ told)
    have read : ValueKind.path.read path = .ok (.text path) := if_neg present
    simp only [Option.map_some, Option.toList_some, List.cons_append, List.nil_append,
      readAll_cons, Given.read, read]
    rfl

def order (config : Configuration) (kind : WorkloadKind) (workload : String) (options : Options)
    (kubeconfig : Option String) (nameSpace node pod : String) (resync : Duration) : Order :=
  { master := none
    kubeconfig
    options :=
      { scratchDirectory := scratchPath, pushUrl := options.pushUrl, metrics := options.metrics,
        cache := options.cache, connections := options.connections, resync,
        nodeName := some node, podName := some pod }
    command := .backup config.name kind workload nameSpace false }

def readOrder? (environment : String → Option String) (c : Container) :
    Option (Except UsageFault Order) :=
  c.arguments.map (CommandLine.read environment)

theorem readFlags_givens {environment : String → Option String} {nameSpace node pod : String}
    (bounded : options.connections < limit32) (fits : Nat.log2 options.resync.seconds < 1023)
    (supplied : Supplied environment nameSpace node pod) :
    Form.backup.read environment ((givens config kind workload options).map Given.argument) =
      match Duration.nearestSeconds options.resync.seconds with
      | none => .error .badValue
      | some resync => .ok (order config kind workload options (environment "KUBECONFIG")
          nameSpace node pod resync) := by
  have distinct : ((givens config kind workload options).map (·.flag.name)).Nodup := by
    change (givenFlags.map Flag.name).Nodup
    decide
  have names : (backupFlags.map Flag.name).Nodup := by decide
  have values := readFlags_given environment (fun g => takes_of_mem) distinct names
  rw [filter_givens, readAll_inherited supplied, readAll_givens bounded fits] at values
  rw [Form.read, ← backupFlags, values]
  cases Duration.nearestSeconds options.resync.seconds with
  | none => rfl
  | some resync =>
    cases environment "KUBECONFIG" with
    | none => rfl
    | some path => rfl

/-- What the program of the sidecar is told by its arguments and its pod. -/
theorem read_container (config : Configuration) (kind : WorkloadKind) (workload : String)
    {environment : String → Option String} {nameSpace node pod : String}
    (bounded : options.connections < limit32) (fits : Nat.log2 options.resync.seconds < 1023)
    (periodic : options.resync.isZero = false)
    (supplied : Supplied environment nameSpace node pod) :
    readOrder? environment (container config kind workload options) =
      some (match Duration.nearestSeconds options.resync.seconds with
      | none => .error .badValue
      | some resync => .ok (order config kind workload options (environment "KUBECONFIG")
          nameSpace node pod resync)) := by
  have formed : readOrder? environment (container config kind workload options) =
      some (Form.backup.read environment
        ((givens config kind workload options).map Given.argument)) := by
    change some (CommandLine.read environment (arguments config kind workload options)) = _
    rw [arguments_eq periodic]
    rfl
  rw [formed, readFlags_givens bounded fits supplied]

/-- Everything that a sidecar is given is read back from its arguments, but for a period that
is not in whole seconds or has too many bits. -/
theorem container_read_back (config : Configuration) (kind : WorkloadKind) (workload : String)
    (options : Options) {environment : String → Option String} {nameSpace node pod : String}
    (bounded : options.connections < limit32) (representable : options.resync.IsRepresentable)
    (periodic : options.resync.isZero = false)
    (supplied : Supplied environment nameSpace node pod) :
    readOrder? environment (container config kind workload options) =
        some (match Duration.nearestSeconds options.resync.seconds with
        | none => .error .badValue
        | some resync => .ok (order config kind workload options (environment "KUBECONFIG")
            nameSpace node pod resync)) ∧
      ({ name := scratchVolumeName, path := scratchPath } : VolumeMount) ∈
        (container config kind workload options).mounts.getD [] ∧
      (readOrder? environment (container config kind workload options) =
          some (.ok (order config kind workload options (environment "KUBECONFIG")
            nameSpace node pod options.resync)) ↔
        options.resync.subsecond = 0 ∧ Binary64.IsExact options.resync.seconds) := by
  have read := read_container config kind workload bounded
    (Duration.log2_seconds representable) periodic supplied
  refine ⟨read, ?_, ?_⟩
  · simp [container, mounts]
  rw [← Duration.nearestSeconds_eq_some_iff representable, read]
  cases Duration.nearestSeconds options.resync.seconds with
  | none => simp
  | some resync =>
    rw [Option.some_inj, Option.some_inj, Except.ok.injEq]
    constructor
    · exact fun same => congrArg (fun o : Order => o.options.resync) same
    · rintro rfl
      rfl

section

def nightly : Configuration :=
  { metadata := Metadata.named "apps" "nightly", spec := { backend := { secretName := "keys" } } }

def hurried : Options := { resync := Duration.ofMillis 500 }

def podVariables : String → Option String
  | "POD_NAMESPACE" => some "apps"
  | "NODE_NAME" => some "node-1"
  | "POD_NAME" => some "web-0"
  | _ => none

/-- Half a second is read back as none at all. -/
theorem container_read_back_hurried :
    hurried.resync ≠ Duration.zero ∧
      readOrder? podVariables (container nightly .deployment "web" hurried) =
        some (.ok (order nightly .deployment "web" hurried none "apps" "node-1" "web-0"
          Duration.zero)) := by
  have supplied : Supplied podVariables "apps" "node-1" "web-0" :=
    ⟨rfl, rfl, rfl, by decide⟩
  have read := container_read_back nightly .deployment "web" hurried (by decide) (by decide)
    (by decide) supplied
  exact ⟨by decide, read.1⟩

end

end ClusterBackup.Sidecar
