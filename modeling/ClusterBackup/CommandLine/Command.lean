import ClusterBackup.CommandLine.Flag
import ClusterBackup.Options

/-! The commands of the program and their flags. -/

set_option autoImplicit false

namespace ClusterBackup.CommandLine

open Cluster

inductive Command where
  /-- Keeps the sidecars of a cluster in place. -/
  | operate (image imageTag : String)
  /-- Backs up by schedule, or once and at once. -/
  | backup (configuration : String) (kind : WorkloadKind) (name nameSpace : String) (offline : Bool)
  /-- Backs up for every session of a configuration. -/
  | followSessions (configuration : String) (kind : WorkloadKind) (name nameSpace : String)
  | takeSnapshots (nameSpace session : String)
  | check (nameSpace repository : String)
  | restore (nameSpace session : String) (kind : WorkloadKind) (name : String)
  deriving DecidableEq, Repr

/-- A command with what all commands are told. -/
structure Order where
  master : Option String
  kubeconfig : Option String
  options : Options
  command : Command
  deriving DecidableEq, Repr

/-- The name of a command, its flags besides those of all, and how it is made from them. -/
structure Form where
  name : String
  flags : List Flag
  resync : Duration := Duration.ofSeconds 300
  build : Values → Option Command

def commonFlags : List Flag :=
  [ { name := "master" },
    { name := "kubeconfig", kind := .path, variable' := some "KUBECONFIG" },
    { name := "scratch-dir", kind := .path },
    { name := "pushgateway-url" },
    { name := "resync-period", kind := .duration },
    { name := "max-num-requeues", kind := .number Number.limit32 },
    { name := "num-threads", kind := .number Number.limit16 },
    { name := "enable-cache", kind := .switch, arity := .optional "true" },
    { name := "max-connections", kind := .number Number.limit32 },
    { name := "metrics-enabled", kind := .switch, arity := .optional "true" },
    { name := "node-name", variable' := some "NODE_NAME" },
    { name := "pod-name", variable' := some "POD_NAME" } ]

def commonOptions (resync : Duration) (values : Values) : Options :=
  let base : Options := {}
  { base with
    scratchDirectory := (values.text? "scratch-dir").getD base.scratchDirectory
    pushUrl := (values.text? "pushgateway-url").getD base.pushUrl
    metrics := (values.switch? "metrics-enabled").getD base.metrics
    cache := (values.switch? "enable-cache").getD base.cache
    connections := (values.number? "max-connections").getD base.connections
    resync := (values.duration? "resync-period").getD resync
    maxRequeues := (values.number? "max-num-requeues").getD base.maxRequeues
    threads := (values.number? "num-threads").getD base.threads
    nodeName := values.text? "node-name"
    podName := values.text? "pod-name" }

namespace Form

def nameSpaceFlag : Flag := { name := "namespace", variable' := some "POD_NAMESPACE" }

def workloadFlags : List Flag :=
  [{ name := "workload-kind", kind := .workload }, { name := "workload-name" }]

def operate : Form :=
  { name := "run"
    flags := [ { name := "image", variable' := some "STASH_IMAGE" },
      { name := "image-tag", variable' := some "STASH_IMAGE_TAG" } ]
    resync := Duration.ofSeconds 600
    build := fun values =>
      let base : Options := {}
      some (.operate ((values.text? "image").getD base.image)
        ((values.text? "image-tag").getD base.imageTag)) }

def backup : Form :=
  { name := "backup"
    flags := { name := "backup-configuration" } :: workloadFlags
      ++ [nameSpaceFlag, { name := "offline", kind := .switch, arity := .none }]
    build := fun values => do
      return .backup (← values.text? "backup-configuration") (← values.workload? "workload-kind")
        (← values.text? "workload-name") (← values.text? "namespace")
        ((values.switch? "offline").getD false) }

def followSessions : Form :=
  { name := "run-backup"
    flags := { name := "backup-configuration" } :: workloadFlags ++ [nameSpaceFlag]
    build := fun values => do
      return .followSessions (← values.text? "backup-configuration")
        (← values.workload? "workload-kind") (← values.text? "workload-name")
        (← values.text? "namespace") }

def takeSnapshots : Form :=
  { name := "create-vs"
    flags := [nameSpaceFlag, { name := "backup-session" }]
    build := fun values => do
      return .takeSnapshots (← values.text? "namespace") (← values.text? "backup-session") }

def check : Form :=
  { name := "check"
    flags := [nameSpaceFlag, { name := "repository" }]
    build := fun values => do
      return .check (← values.text? "namespace") (← values.text? "repository") }

def restore : Form :=
  { name := "restore"
    flags := [nameSpaceFlag, { name := "restore-session" }] ++ workloadFlags
    build := fun values => do
      return .restore (← values.text? "namespace") (← values.text? "restore-session")
        (← values.workload? "workload-kind") (← values.text? "workload-name") }

def all : List Form := [operate, backup, followSessions, takeSnapshots, check, restore]

def find? (name : String) : Option Form := all.find? (·.name == name)

def read (form : Form) (environment : String → Option String) (arguments : List String) :
    Except UsageFault Order := do
  let values ← readFlags (form.flags ++ commonFlags) environment arguments
  match form.build values with
  | none => throw .missingRequired
  | some command =>
    return {
      master := values.text? "master"
      kubeconfig := values.text? "kubeconfig"
      options := commonOptions form.resync values
      command }

end Form

def helpCommand : String := "help"

def readHelp : List String → UsageFault
  | [] => .help
  | [name] => if name = helpCommand ∨ (Form.find? name).isSome then .help else .unknownCommand
  | _ => .unknownCommand

/-- The order that arguments after a separator give: none at all. -/
def readSeparated : List String → UsageFault
  | [] => .nothingGiven
  | argument :: _ =>
    if argument = helpCommand ∨ (Form.find? argument).isSome then .unknownArgument else .unknownCommand

def read (environment : String → Option String) : List String → Except UsageFault Order
  | [] => .error .nothingGiven
  | argument :: rest =>
    match Form.find? argument with
    | some form => form.read environment rest
    | none =>
      if argument = helpCommand then .error (readHelp rest)
      else .error (match Shape.ofArgument argument with
        | .separator => readSeparated rest
        | .long name value =>
          if name ≠ "help" then .unknownArgument
          else if value.isSome then .tooManyValues
          else .help
        | .short first => if first = 'h' then .help else .unknownArgument
        | .plain _ => .unknownCommand)

end ClusterBackup.CommandLine
