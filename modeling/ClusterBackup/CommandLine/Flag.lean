import ClusterBackup.Cluster.Workload
import ClusterBackup.Time.DurationText

/-! Flags on a command line, and how arguments are read as their values.

An argument that begins with two dashes names a flag. Its value follows after an equals sign
or is the next argument. A value from a next argument is looked at late, when another flag
begins or the arguments end, so a fault of a later argument may come first. -/

set_option autoImplicit false

namespace ClusterBackup.CommandLine

open Cluster

inductive UsageFault where
  | missingRequired
  | badValue
  | invalidValue
  | tooManyValues
  | unknownArgument
  | givenTwice
  | unknownCommand
  | help
  | nothingGiven
  deriving DecidableEq, Repr

inductive Value where
  | text (text : String)
  | switch (on : Bool)
  | number (n : Nat)
  | duration (duration : Duration)
  | workload (kind : WorkloadKind)
  deriving DecidableEq, Repr

inductive ValueKind where
  | text
  | path
  | switch
  | number (bound : Nat)
  | duration
  | workload
  deriving DecidableEq, Repr

/-- How many values a flag takes; one that may go without has a value for that case. -/
inductive Arity where
  | none
  | one
  | optional (value : String)
  deriving DecidableEq, Repr

structure Flag where
  name : String
  kind : ValueKind := .text
  arity : Arity := .one
  /-- The environment variable that stands in for the flag. -/
  variable' : Option String := none
  deriving DecidableEq, Repr

abbrev Values := List (String × Value)

namespace ValueKind

def read (kind : ValueKind) (s : String) : Except UsageFault Value :=
  match kind with
  | .text => .ok (.text s)
  | .path => if s = "" then .error .invalidValue else .ok (.text s)
  | .switch =>
    if s = "true" then .ok (.switch true)
    else if s = "false" then .ok (.switch false)
    else .error .invalidValue
  | .number bound =>
    match Number.intWithin? 0 (bound - 1) s with
    | some n => .ok (.number n.toNat)
    | none => .error .badValue
  | .duration =>
    match Duration.parse s with
    | .ok d => .ok (.duration d)
    | .error _ => .error .badValue
  | .workload =>
    match WorkloadKind.parse s with
    | .ok k => .ok (.workload k)
    | .error _ => .error .badValue

end ValueKind

/-- An argument by its dashes. -/
inductive Shape where
  | separator
  | long (name : String) (value : Option String)
  | short (first : Char)
  | plain (text : String)
  deriving DecidableEq, Repr

namespace Shape

def ofArgument (argument : String) : Shape :=
  match argument.toList with
  | ['-', '-'] => .separator
  | '-' :: '-' :: rest =>
    match Text.cutAt '=' rest with
    | some (name, value) => .long (String.ofList name) (some (String.ofList value))
    | none => .long (String.ofList rest) none
  | '-' :: first :: _ => .short first
  | _ => .plain argument

end Shape

/-- What was read so far. The open flag is the last one if its value, which is there or still
to come, was not looked at. -/
structure State where
  values : Values := []
  open' : Option (Flag × Option String) := none
  separated : Bool := false
  deriving Repr

namespace State

def holds (s : State) (flag : Flag) : Bool := s.values.any (·.1 == flag.name)

def accept (s : State) (flag : Flag) (value : Option String) : Except UsageFault State := do
  let value ← match value, flag.arity with
    | some value, _ => .ok value
    | none, .optional value => .ok value
    | none, _ => .error .invalidValue
  if s.holds flag then throw .givenTwice
  return { s with values := s.values ++ [(flag.name, ← flag.kind.read value)] }

def close (s : State) : Except UsageFault State :=
  match s.open' with
  | none => .ok s
  | some (flag, value) => accept { s with open' := none } flag value

def askHelp (s : State) : Except UsageFault State := do
  let _ ← s.close
  throw .help

def long (flags : List Flag) (s : State) (name : String) (value : Option String) :
    Except UsageFault State :=
  if name = "help" then if value.isSome then .error .tooManyValues else s.askHelp
  else match flags.find? (·.name == name) with
    | none => .error .unknownArgument
    | some flag =>
      match flag.arity, value with
      | .none, some _ => .error .tooManyValues
      | .none, none => do (← s.close).accept flag (some "true")
      | _, some value => do (← s.close).accept flag (some value)
      | _, none => do return { ← s.close with open' := some (flag, none) }

def step (flags : List Flag) (s : State) (argument : String) : Except UsageFault State :=
  if s.separated then .error .unknownArgument
  else match Shape.ofArgument argument with
    | .separator => .ok { s with separated := true }
    | .long name value => s.long flags name value
    | .short first => if first = 'h' then s.askHelp else .error .unknownArgument
    | .plain text =>
      match s.open' with
      | some (flag, none) => .ok { s with open' := some (flag, some text) }
      | _ => .error .unknownArgument

/-- Takes the environment for a flag that is not given. -/
def inherit (environment : String → Option String) (s : State) (flag : Flag) :
    Except UsageFault State :=
  match flag.variable'.bind environment with
  | none => .ok s
  | some value => if s.holds flag then .ok s else s.accept flag (some value)

end State

/-- The values of flags, from arguments and then from the environment. -/
def readFlags (flags : List Flag) (environment : String → Option String) (arguments : List String) :
    Except UsageFault Values := do
  let state ← arguments.foldlM (State.step flags) {}
  let state ← flags.foldlM (State.inherit environment) (← state.close)
  return state.values

namespace Values

def get? (values : Values) (name : String) : Option Value := (values.find? (·.1 == name)).map (·.2)

def text? (values : Values) (name : String) : Option String :=
  match values.get? name with
  | some (.text text) => some text
  | _ => none

def number? (values : Values) (name : String) : Option Nat :=
  match values.get? name with
  | some (.number n) => some n
  | _ => none

def switch? (values : Values) (name : String) : Option Bool :=
  match values.get? name with
  | some (.switch on) => some on
  | _ => none

def duration? (values : Values) (name : String) : Option Duration :=
  match values.get? name with
  | some (.duration duration) => some duration
  | _ => none

def workload? (values : Values) (name : String) : Option WorkloadKind :=
  match values.get? name with
  | some (.workload kind) => some kind
  | _ => none

end Values

end ClusterBackup.CommandLine
