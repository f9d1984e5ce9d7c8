import ClusterBackup.Failure
import ClusterBackup.Text.Scan
import ClusterBackup.Text.Utf8

/-! What becomes of a process: it cannot be started, or it ends with output. -/

set_option autoImplicit false

namespace ClusterBackup.Execution

inductive StartFault where
  | missing
  | denied
  | throughFile
  | longName
  | badName
  deriving DecidableEq, Repr

namespace StartFault

def describe : StartFault → String
  | .missing => "No such file or directory (os error 2)"
  | .denied => "Permission denied (os error 13)"
  | .throughFile => "Not a directory (os error 20)"
  | .longName => "File name too long (os error 36)"
  | .badName => "nul byte found in provided data"

end StartFault

inductive Ending where
  | exited (code : Nat)
  | killed (signal : Nat)
  deriving DecidableEq, Repr

structure Finished where
  output : List UInt8 := []
  errors : List UInt8 := []
  ending : Ending := .exited 0
  deriving DecidableEq, Repr

/-- Signals by number, counted from 1. -/
def signalNames : List String :=
  [ "HUP", "INT", "QUIT", "ILL", "TRAP", "ABRT", "BUS", "FPE", "KILL", "USR1", "SEGV", "USR2",
    "PIPE", "ALRM", "TERM", "STKFLT", "CHLD", "CONT", "STOP", "TSTP", "TTIN", "TTOU", "URG",
    "XCPU", "XFSZ", "VTALRM", "PROF", "WINCH", "IO", "PWR", "SYS" ]

def signalName? (signal : Nat) : Option String :=
  if signal = 0 then none else signalNames[signal - 1]?

namespace Ending

def describe : Ending → String
  | .exited code => "exit status: " ++ Number.textOf code
  | .killed signal =>
    "signal: " ++ Number.textOf signal
      ++ ((signalName? signal).map fun name => " (SIG" ++ name ++ ")").getD ""

end Ending

def lastLine? (text : String) : Option String :=
  (((Text.lines text).map Text.trim).filter (· ≠ "")).getLast?

namespace Finished

/-- The output of a process that ended well. Of another one the last line tells why, of its
errors or else of its output. -/
def reply (command : String) (f : Finished) : Except Failure String :=
  let output := Text.decodeBytes f.output
  if f.ending = .exited 0 then .ok output
  else
    let line := lastLine? (Text.decodeBytes f.errors) <|> lastLine? output
    .error (.tool command (line.getD f.ending.describe))

end Finished

def reply (command : String) : Except StartFault Finished → Except Failure String
  | .error fault => .error (.files fault.describe)
  | .ok finished => finished.reply command

end ClusterBackup.Execution
