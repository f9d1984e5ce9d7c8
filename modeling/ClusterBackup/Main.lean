import ClusterBackup.CommandLine.Usage
import ClusterBackup.Failure
import ClusterBackup.Json.Writer
import ClusterBackup.Resource.Definition

/-! The command line. It shows the definitions of the resources and checks orders; an order
is refused after that, since there is no connection to a cluster. -/

set_option autoImplicit false

namespace ClusterBackup.CommandLine

def inherited : IO (List (String × String)) :=
  variableNames.filterMapM fun name => do
    return (← IO.getEnv name).map fun value => (name, value)

def refuse (message : String) (code : UInt32) : IO UInt32 := do
  IO.eprintln message
  return code

def run (arguments : List String) : IO UInt32 := do
  if arguments = ["--crd"] then
    IO.println ("\n---\n".intercalate (Definition.all.map (·.toJson.write)))
    return 0
  let environment ← inherited
  match read (fun name => environment.lookup name) arguments with
  | .error .help => IO.println usage; return 0
  | .error fault => refuse ("error: " ++ fault.message ++ "\n\n" ++ usage) 2
  | .ok order => refuse ("error: " ++ order.unconnected.message) 1

end ClusterBackup.CommandLine

def main (arguments : List String) : IO UInt32 := ClusterBackup.CommandLine.run arguments
