import ClusterBackup.Options
import ClusterBackup.Resource.Retention
import ClusterBackup.Tool.Environment

/-! Invocations of the backup tool, and what its output says. -/

set_option autoImplicit false

namespace ClusterBackup

structure Invocation where
  program : String := "/bin/restic"
  arguments : List String
  bindings : Dictionary
  deriving DecidableEq, Repr

/-- A snapshot as the tool lists it. -/
structure StoredSnapshot where
  id : String
  time : Instant
  paths : List String := []
  host : String := ""
  tags : List String := []
  deriving DecidableEq, Repr

/-- One repository: its environment, and options that do not depend on it. -/
structure Tool where
  environment : Environment
  scratch : String
  cache : Bool
  connections : Nat
  deriving BEq, Repr

namespace Invocation

def command (i : Invocation) : String := i.arguments.head?.getD ""

end Invocation

namespace Tool

def ofOptions (environment : Environment) (options : Options) : Tool :=
  { environment, scratch := options.scratchDirectory, cache := options.cache,
    connections := options.connections }

def commonArguments (t : Tool) : List String :=
  (if t.cache then ["--cache-dir", Path.join t.scratch "restic-cache"] else ["--no-cache"])
    ++ (match t.environment.authorities with
      | some file => ["--cacert", file]
      | none => [])
    ++ (if 0 < t.connections && t.environment.provider.limitsConnections then
        ["-o", t.environment.provider.name ++ ".connections=" ++ Number.textOf t.connections]
      else [])

def invocation (t : Tool) (arguments : List String) : Invocation :=
  { arguments := arguments ++ t.commonArguments, bindings := t.environment.bindings }

def hostArguments (host : String) : List String := if host = "" then [] else ["--host", host]

def probe : List String := ["snapshots", "--json"]

def create : List String := ["init"]

def backup (path host : String) (tags : List String) : List String :=
  ["backup", path] ++ hostArguments host ++ tags.flatMap fun tag => ["--tag", tag]

/-- Nothing is forgotten without a policy. -/
def forget? (policy : Retention) (host path : String) : Option (List String) :=
  if policy.isEmpty then none
  else some (["forget"] ++ (policy.keeps.flatMap fun (option, n) => [option, Number.textOf n])
    ++ (policy.tags.flatMap fun tag => ["--keep-tag", tag])
    ++ (if policy.prune then ["--prune"] else []) ++ (if policy.dryRun then ["--dry-run"] else [])
    ++ hostArguments host ++ ["--path", path])

/-- Into the directory of the path; of a certain snapshot, or of the latest one of a host. -/
def restore (path host : String) (snapshot : Option String) : List String :=
  [ "restore", snapshot.getD "latest", "--path", path, "--host", host, "--target",
    (Path.parent? path).getD "/" ]

def check : List String := ["check"]

def stats : List String := ["stats", "--mode=raw-data", "--quiet"]

def listSnapshots (ids : List String) : List String :=
  ["snapshots", "--json", "--quiet", "--no-lock"] ++ ids

end Tool

/-- The size on the first line that tells it. -/
def totalSize? (output : String) : Option String :=
  (Text.lines output).findSome? fun line =>
    (Text.after? "Total Size:" (Text.trim line)).map Text.trim

/-- The number on a line that tells how many snapshots are removed. -/
def removedOn? (line : String) : Option Int := do
  let rest ← Text.after? "remove " (Text.trim line)
  let (n, tail) ← Text.cutChar ' ' rest
  let _ ← Text.after? "snapshot" tail
  Number.intWithin? Number.least64 Number.greatest64 n

/-- The sum of these numbers, without the bound of 64 bits that each of them has. -/
def removedCount (output : String) : Int := ((Text.lines output).filterMap removedOn?).foldl (· + ·) 0

end ClusterBackup
