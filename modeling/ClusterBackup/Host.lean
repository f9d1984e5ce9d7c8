import ClusterBackup.Cluster.Workload
import ClusterBackup.Resource.Configuration

/-! Hosts: the name under which a workload's snapshots are stored, and the path that
keeps its repository apart from others. -/

set_option autoImplicit false

namespace ClusterBackup

open Cluster

structure Host where
  name : String
  smartPath : String
  node : String
  pod : String
  deriving DecidableEq, Repr, Inhabited

namespace Host

/-- Pods of a stateful set are hosts of their own, and so are the nodes of a daemon set,
each with a path of its own. The pods of other workloads are one host. -/
def derive (kind : WorkloadKind) (name pod node : String) : Host :=
  let base := kind.lower ++ "/" ++ name
  match kind with
  | .statefulSet => { name := pod, smartPath := base, node, pod }
  | .daemonSet => { name := node, smartPath := base ++ "/" ++ node, node, pod }
  | _ => { name, smartPath := base, node, pod }

/-- The path that is appended to a backend. -/
def path (h : Host) : AutoPath → String
  | .smart => h.smartPath
  | .nodeName => h.node
  | .podName => h.pod
  | .off => ""

def repositoryName (h : Host) (autoPath : AutoPath) : String :=
  let path := h.path autoPath
  if path = "" then "default" else Text.replaceChar '/' '.' path

end Host

end ClusterBackup
