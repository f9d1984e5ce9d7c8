import ClusterBackup.CommandLine.Command
import ClusterBackup.Failure

/-! What a user is told about the command line. -/

set_option autoImplicit false

namespace ClusterBackup.CommandLine

namespace UsageFault

def message : UsageFault → String
  | .missingRequired => "a flag that the command needs is missing"
  | .badValue => "a value cannot be read"
  | .invalidValue => "a value is missing or not allowed"
  | .tooManyValues => "a flag without a value is given one"
  | .unknownArgument => "an argument is unknown"
  | .givenTwice => "a flag is given twice"
  | .unknownCommand => "the command is unknown"
  | .help => "help is asked for"
  | .nothingGiven => "no command is given"

end UsageFault

def variableNames : List String :=
  ((Form.all.flatMap (·.flags) ++ commonFlags).filterMap (·.variable')).eraseDups

def usage : String :=
  "Usage: stash <COMMAND> [OPTIONS]\n\nCommands:\n"
    ++ "\n".intercalate (Form.all.map fun form => "  " ++ form.name)

def Order.unconnected (order : Order) : Failure :=
  match order.kubeconfig with
  | some path => .client ("failed to read kubeconfig: " ++ path)
  | none => .client "failed to infer config"

end ClusterBackup.CommandLine
