import ClusterBackup.Failure
import ClusterBackup.Resource.Hosts
import ClusterBackup.Text.Scan

/-! Sessions: one invocation of a backup or of a restore, in which hosts take part. -/

set_option autoImplicit false

namespace ClusterBackup

open Json

structure BackupSessionSpec where
  configuration : String
  deriving DecidableEq, Repr

/-- What some hosts restore, and from which host's snapshots. -/
structure RestoreRule where
  targets : List String := []
  source : Option String := none
  paths : List String := []
  snapshots : List String := []
  deriving DecidableEq, Repr

structure RestoreSessionSpec where
  repository : String
  rules : List RestoreRule := []
  deriving DecidableEq, Repr

structure SessionStatus where
  phase : Phase := .pending
  totalHosts : Option Int := none
  hosts : List HostEntry := []
  deriving DecidableEq, Repr, Inhabited

namespace BackupSessionSpec

def shape : Shape :=
  .record "BackupSessionSpec" [Shape.req "backupConfiguration" .text]

def ofJson? (j : Json) : Option BackupSessionSpec := do
  let members ← record? ["backupConfiguration"] j
  return { configuration := ← members.required "backupConfiguration" text? }

def toJson (s : BackupSessionSpec) : Json :=
  .object [("backupConfiguration", .string s.configuration)]

end BackupSessionSpec

namespace RestoreRule

def shape : Shape :=
  .record "RestoreRule"
    [ Shape.dft "targetHosts" (.many .text), Shape.opt "sourceHost" .text,
      Shape.dft "paths" (.many .text), Shape.dft "snapshots" (.many .text) ]

def ofJson? (j : Json) : Option RestoreRule := do
  let members ← record? ["targetHosts", "sourceHost", "paths", "snapshots"] j
  return {
    targets := ← members.defaulted "targetHosts" [] (list? text?)
    source := ← members.optional "sourceHost" text?
    paths := ← members.defaulted "paths" [] (list? text?)
    snapshots := ← members.defaulted "snapshots" [] (list? text?) }

def toJson (r : RestoreRule) : Json :=
  .object (memberUnlessEmpty "targetHosts" .string r.targets ++ member? "sourceHost" .string r.source
    ++ memberUnlessEmpty "paths" .string r.paths ++ memberUnlessEmpty "snapshots" .string r.snapshots)

end RestoreRule

namespace RestoreSessionSpec

def ruleName (position : Nat) : String := "rule[" ++ Number.textOf position ++ "]"

def catchAlls (rules : List RestoreRule) : List Nat :=
  (rules.zipIdx.filter (·.1.targets.isEmpty)).map (·.2)

def claims (rules : List RestoreRule) : List (String × Nat) :=
  rules.zipIdx.flatMap fun (rule, position) => rule.targets.map (·, position)

/-- A host named again, with the position at which it was named last before. -/
def firstRepeated : List (String × Nat) → List (String × Nat) → Option (String × Nat × Nat)
  | _, [] => none
  | seen, (host, position) :: rest =>
    match seen.find? (·.1 == host) with
    | some (_, earlier) => some (host, earlier, position)
    | none => firstRepeated ((host, position) :: seen) rest

/-- At most one rule is for all other hosts, no host is named twice, and a rule asks for
snapshots or for paths, not for both. -/
def validate (s : RestoreSessionSpec) : Except Failure Unit := do
  let all := catchAlls s.rules
  if 1 < all.length then
    throw (.validation (Number.textOf all.length ++ " rules found with empty targetHosts ("
      ++ Text.join ", " (all.map ruleName) ++ "); at most one is allowed"))
  match firstRepeated [] (claims s.rules) with
  | some (host, earlier, later) =>
    throw (.validation (ruleName earlier ++ " and " ++ ruleName later ++ " both match host "
      ++ Text.quote host))
  | none => pure ()
  match s.rules.zipIdx.find? fun (r, _) => ! r.snapshots.isEmpty && ! r.paths.isEmpty with
  | some (_, position) =>
    throw (.validation (ruleName position
      ++ " sets both snapshots and paths; a snapshot holds a single path"))
  | none => pure ()

def ruleFor? (s : RestoreSessionSpec) (host : String) : Option RestoreRule :=
  match s.rules.find? fun r => r.targets.contains host with
  | some r => some r
  | none => s.rules.find? (·.targets.isEmpty)

def shape : Shape :=
  .record "RestoreSessionSpec"
    [Shape.req "repository" .text, Shape.dft "rules" (.many RestoreRule.shape)]

def ofJson? (j : Json) : Option RestoreSessionSpec := do
  let members ← record? ["repository", "rules"] j
  return {
    repository := ← members.required "repository" text?
    rules := ← members.defaulted "rules" [] (list? RestoreRule.ofJson?) }

def toJson (s : RestoreSessionSpec) : Json :=
  .object [("repository", .string s.repository), ("rules", .array (s.rules.map RestoreRule.toJson))]

end RestoreSessionSpec

namespace SessionStatus

def shape (name : String) : Shape :=
  .record name
    [ Shape.dft "phase" Phase.shape, Shape.opt "totalHosts" (.whole signed32),
      Shape.dft "hosts" (.many HostEntry.shape) ]

def ofJson? (j : Json) : Option SessionStatus := do
  let members ← record? ["phase", "totalHosts", "hosts"] j
  return {
    phase := ← members.defaulted "phase" .pending Phase.ofJson?
    totalHosts := ← members.optional "totalHosts" int32?
    hosts := ← members.defaulted "hosts" [] (list? HostEntry.ofJson?) }

def toJson (s : SessionStatus) : Json :=
  .object ([("phase", s.phase.toJson)] ++ member? "totalHosts" .integer s.totalHosts
    ++ memberUnlessEmpty "hosts" HostEntry.toJson s.hosts)

end SessionStatus

end ClusterBackup
