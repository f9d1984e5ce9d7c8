import ClusterBackup.Failure
import ClusterBackup.Time.Duration

/-! What a process is told when it starts. -/

set_option autoImplicit false

namespace ClusterBackup

structure Options where
  scratchDirectory : String := "/tmp"
  pushUrl : String := "http://stash-operator.kube-system.svc:56789"
  metrics : Bool := false
  cache : Bool := true
  /-- The limit on connections to a backend; 0 leaves it to the tool. -/
  connections : Nat := 0
  resync : Duration := Duration.ofSeconds 600
  maxRequeues : Nat := 5
  threads : Nat := 2
  image : String := "ghcr.io/stashed/stash"
  imageTag : String := "latest"
  nodeName : Option String := none
  podName : Option String := none
  deriving DecidableEq, Repr, Inhabited

namespace Options

def sidecarImage (o : Options) : String := o.image ++ ":" ++ o.imageTag

def given (variable' : String) (value : Option String) : Except Failure String :=
  match value.filter (· ≠ "") with
  | some value => .ok value
  | none => .error (.validation ("missing env var " ++ variable'))

def requireNodeName (o : Options) : Except Failure String := given "NODE_NAME" o.nodeName

def requirePodName (o : Options) : Except Failure String := given "POD_NAME" o.podName

end Options

end ClusterBackup
