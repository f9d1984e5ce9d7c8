import ClusterBackup.Sidecar

/-! What a change of a workload or of a configuration asks for. -/

set_option autoImplicit false

namespace ClusterBackup

open Cluster

inductive Trigger where
  | add (config : Configuration)
  | remove (owner : String)
  | schedule (config : Configuration)
  | scheduleRemoved
  | unchanged

namespace Configuration

/-- Configurations whose selector is missing or invalid pick nothing. -/
def picks (config : Configuration) (labels : Dictionary) : Bool :=
  match config.spec.selector with
  | none => false
  | some selector => match selector.picks labels with
    | .ok answer => answer
    | .error _ => false

/-- The first of those with the smallest name. -/
def leastNamed : List Configuration → Option Configuration
  | [] => none
  | c :: rest => match leastNamed rest with
    | none => some c
    | some least => if c.name ≤ least.name then some c else some least

def find? (configs : List Configuration) (labels : Dictionary) : Option Configuration :=
  leastNamed (configs.filter (·.picks labels))

def isIn (nameSpace : String) (config : Configuration) : Bool :=
  config.metadata.nameSpace == some nameSpace

def targets (config : Configuration) (kind : WorkloadKind) (name : String) : Bool :=
  match config.spec.target with
  | none => false
  | some t => t.name == name && match WorkloadKind.parse t.kind with
    | .ok k => k == kind
    | .error _ => false

end Configuration

/-- The configuration that a workload should be backed up by. One that names the workload
goes before those that select by labels. -/
def desired? (w : Workload) (configs : List Configuration) : Option Configuration :=
  let near := configs.filter (Configuration.isIn w.nameSpace)
  match Configuration.leastNamed (near.filter (·.targets w.kind w.name)) with
  | some config => some config
  | none => do
    let chosen ← Configuration.find? (near.filter (·.spec.target.isNone)) w.labels
    near.find? (·.name == chosen.name)

/-- Compares the configuration that a workload should carry with the one it carries. -/
def Trigger.ofWorkload (w : Workload) (configs : List Configuration) : Trigger :=
  if w.isManaged then .unchanged
  else match desired? w configs, w.annotation? Sidecar.ownerAnnotation with
    | some config, some owner => if owner = config.name then .unchanged else .add config
    | some config, none => .add config
    | none, some owner => .remove owner
    | none, none => .unchanged

/-- Compares the expression that is installed with the one of the configuration, which may
be gone. -/
def Trigger.ofConfiguration (installed : Option String) (config : Option Configuration) : Trigger :=
  match config with
  | none => if installed.isSome then .scheduleRemoved else .unchanged
  | some config =>
    let wanted := Text.trim config.spec.schedule
    if installed = some wanted then .unchanged
    else if wanted ≠ "" then .schedule config
    else if installed.isSome then .scheduleRemoved else .unchanged

end ClusterBackup
