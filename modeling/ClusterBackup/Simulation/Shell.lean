import ClusterBackup.Text.Dictionary
import ClusterBackup.Tool.Execution

/-! Processes in memory: a small shell, and programs that only succeed or fail.

The shell knows quotes, variables, lists of commands, redirections between the two outputs,
and the commands that write, end or signal the shell itself. -/

set_option autoImplicit false

namespace ClusterBackup.Simulation.Shell

open Execution

/-! ### Words -/

inductive Piece where
  | text (text : String)
  | variable' (name : String) (quoted : Bool)
  deriving DecidableEq, Repr

abbrev Word := List Piece

inductive Token where
  | word (word : Word)
  | next
  | both
  | either
  | background
  | pipe
  /-- Where an output goes: into a file, or to where another one goes. -/
  | into (output : Nat)
  | like (output : Nat)
  deriving DecidableEq, Repr

inductive Mode where
  | plain
  | single
  | double
  | escape (quoted : Bool)
  | dollar (quoted : Bool)
  | name (reversed : List Char) (quoted : Bool)
  | braced (reversed : List Char) (quoted : Bool)
  | comment
  deriving DecidableEq, Repr

structure Lexer where
  mode : Mode := .plain
  word : Option Word := none
  tokens : List Token := []

namespace Lexer

def isNameChar (c : Char) : Bool := c.isAlphanum || c == '_'

def add (l : Lexer) (piece : Piece) : Lexer := { l with word := some (l.word.getD [] ++ [piece]) }

def addChar (l : Lexer) (c : Char) : Lexer :=
  match (l.word.getD []).reverse with
  | .text s :: before => { l with word := some (before.reverse ++ [.text (s.push c)]) }
  | _ => l.add (.text (String.singleton c))

def cut (l : Lexer) : Lexer :=
  match l.word with
  | none => l
  | some word => { l with word := none, tokens := l.tokens ++ [.word word] }

def push (l : Lexer) (token : Token) : Lexer :=
  let l := l.cut
  { l with tokens := l.tokens ++ [token] }

/-- Two signs that follow each other are one token. -/
def merge (l : Lexer) (first double single : Token) : Lexer :=
  if l.word.isNone && l.tokens.getLast? == some first then
    { l with tokens := l.tokens.dropLast ++ [double] }
  else l.push single

def redirect (l : Lexer) : Lexer :=
  match l.word with
  | some [.text s] =>
    match Number.natOf? s.toList with
    | some n => { l with word := none, tokens := l.tokens ++ [.into n] }
    | none => l.push (.into 1)
  | _ => l.push (.into 1)

def ampersand (l : Lexer) : Lexer :=
  match l.word, l.tokens.getLast? with
  | none, some (.into n) => { l with tokens := l.tokens.dropLast ++ [.like n] }
  | _, _ => l.merge .background .both .background

def plain (l : Lexer) (c : Char) : Lexer :=
  let l := { l with mode := .plain }
  match c with
  | ' ' | '\t' => l.cut
  | '\n' | ';' => l.push .next
  | '&' => l.ampersand
  | '|' => l.merge .pipe .either .pipe
  | '>' => l.redirect
  | '\'' => { l.add (.text "") with mode := .single }
  | '"' => { l.add (.text "") with mode := .double }
  | '\\' => { l with mode := .escape false }
  | '$' => { l with mode := .dollar false }
  | '#' => if l.word.isNone then { l with mode := .comment } else l.addChar c
  | c => l.addChar c

def double (l : Lexer) (c : Char) : Lexer :=
  let l := { l with mode := .double }
  match c with
  | '"' => { l with mode := .plain }
  | '\\' => { l with mode := .escape true }
  | '$' => { l with mode := .dollar true }
  | c => l.addChar c

def back (l : Lexer) (quoted : Bool) : Lexer := { l with mode := if quoted then .double else .plain }

def again (l : Lexer) (quoted : Bool) (c : Char) : Lexer := if quoted then l.double c else l.plain c

def variable' (l : Lexer) (reversed : List Char) (quoted : Bool) : Lexer :=
  (l.add (.variable' (String.ofList reversed.reverse) quoted)).back quoted

def step (l : Lexer) (c : Char) : Lexer :=
  match l.mode with
  | .plain => l.plain c
  | .double => l.double c
  | .single => if c = '\'' then { l with mode := .plain } else l.addChar c
  | .escape false => (if c = '\n' then l else l.addChar c).back false
  | .escape true =>
    if c = '\n' then l.back true
    else if ['$', '"', '\\', '\x60'].contains c then (l.addChar c).back true
    else ((l.addChar '\\').addChar c).back true
  | .dollar quoted =>
    if c = '\x7b' then { l with mode := .braced [] quoted }
    else if c.isDigit || ['$', '?', '#', '@', '*'].contains c then l.variable' [c] quoted
    else if isNameChar c then { l with mode := .name [c] quoted }
    else ((l.addChar '$').back quoted).again quoted c
  | .name reversed quoted =>
    if isNameChar c then { l with mode := .name (c :: reversed) quoted }
    else (l.variable' reversed quoted).again quoted c
  | .braced reversed quoted =>
    if c = '\x7d' then l.variable' reversed quoted
    else { l with mode := .braced (c :: reversed) quoted }
  | .comment => if c = '\n' then l.plain c else l

/-- The tokens of a script, if its quotes are closed. -/
def tokens? (script : String) : Option (List Token) :=
  let l := script.toList.foldl step {}
  match l.mode with
  | .plain | .comment => some l.cut.tokens
  | .name reversed false => some (l.variable' reversed false).cut.tokens
  | .dollar false => some (l.addChar '$').cut.tokens
  | .escape false => some (l.addChar '\\').cut.tokens
  | _ => none

end Lexer

/-! ### Commands -/

/-- When a command runs: always, after one that succeeded, or after one that failed. -/
inductive Condition where
  | always
  | success
  | failure
  deriving DecidableEq, Repr

inductive Redirection where
  | file (output : Nat) (name : Word)
  | like (output : Nat) (other : Word)
  deriving DecidableEq, Repr

structure Command where
  condition : Condition := .always
  words : List Word := []
  redirections : List Redirection := []
  deriving DecidableEq, Repr

/-- The commands of a script, if it has no others than the shell knows. -/
def commands? (command : Command) : List Token → Option (List Command)
  | [] => some [command]
  | .word w :: rest => commands? { command with words := command.words ++ [w] } rest
  | .next :: rest => do return command :: (← commands? {} rest)
  | .both :: rest => do return command :: (← commands? { condition := .success } rest)
  | .either :: rest => do return command :: (← commands? { condition := .failure } rest)
  | .into n :: .word w :: rest =>
    commands? { command with redirections := command.redirections ++ [.file n w] } rest
  | .like n :: .word w :: rest =>
    commands? { command with redirections := command.redirections ++ [.like n w] } rest
  | _ => none

/-! ### Running -/

def ownNumber : String := "4711"

structure State where
  bindings : Dictionary
  parameters : List String := []
  output : List UInt8 := []
  errors : List UInt8 := []
  status : Nat := 0
  ending : Option Ending := none

namespace State

def value (s : State) (name : String) : String :=
  if name = "$" then ownNumber
  else if name = "?" then Number.textOf s.status
  else if name = "#" then Number.textOf (s.parameters.length - 1)
  else if name = "@" ∨ name = "*" then Text.join " " (s.parameters.drop 1)
  else match Number.natOf? name.toList with
    | some n => (s.parameters[n]?).getD ""
    | none => (s.bindings.get? name).getD ""

/-- Fields that are complete, and the one that goes on. -/
def addPiece (s : State) : List String × Option String → Piece → List String × Option String
  | (done, current), .text text => (done, some (current.getD "" ++ text))
  | (done, current), .variable' name true => (done, some (current.getD "" ++ s.value name))
  | fields, .variable' name false =>
    (s.value name).toList.foldl (fun (done, current) c =>
      if c = ' ' ∨ c = '\t' ∨ c = '\n' then (done ++ current.toList, none)
      else (done, some ((current.getD "").push c))) fields

def expand (s : State) (word : Word) : List String :=
  let (done, current) := word.foldl s.addPiece ([], none)
  done ++ current.toList

end State

/-- A place for bytes. -/
inductive Sink where
  | output
  | errors
  | nowhere
  deriving DecidableEq, Repr

structure Sinks where
  output : Sink := .output
  errors : Sink := .errors

namespace Sinks

def set (sinks : Sinks) (n : Nat) (sink : Sink) : Option Sinks :=
  match n with
  | 1 => some { sinks with output := sink }
  | 2 => some { sinks with errors := sink }
  | _ => none

def redirect (s : State) (sinks : Sinks) : Redirection → Option Sinks
  | .file n word => if s.expand word = ["/dev/null"] then sinks.set n .nowhere else none
  | .like n word =>
    match s.expand word with
    | ["1"] => sinks.set n sinks.output
    | ["2"] => sinks.set n sinks.errors
    | _ => none

end Sinks

def State.put (s : State) (sink : Sink) (bytes : List UInt8) : State :=
  match sink with
  | .output => { s with output := s.output ++ bytes }
  | .errors => { s with errors := s.errors ++ bytes }
  | .nowhere => s

def isOctal (c : Char) : Bool := '0' ≤ c && c ≤ '7'

def octalByte (digits : List Char) : UInt8 :=
  UInt8.ofNat (digits.foldl (fun n c => n * 8 + Number.digitValue c) 0 % 256)

/-- What a backslash and a character stand for. -/
def escaped (c : Char) : List UInt8 :=
  match c with
  | 'a' => [7]
  | 'b' => [8]
  | 'f' => [12]
  | 'n' => [10]
  | 'r' => [13]
  | 't' => [9]
  | 'v' => [11]
  | '\\' => [92]
  | c => 92 :: Text.encodeBytes (String.singleton c)

inductive Item where
  | bytes (bytes : List UInt8)
  | argument (letter : Char)
  deriving DecidableEq, Repr

def items : List Char → List Item
  | [] => []
  | '\\' :: rest =>
    let digits := (rest.take 3).takeWhile isOctal
    if digits ≠ [] then .bytes [octalByte digits] :: items (rest.drop digits.length)
    else match rest with
      | [] => [.bytes [92]]
      | c :: rest => .bytes (escaped c) :: items rest
  | '%' :: '%' :: rest => .bytes [37] :: items rest
  | '%' :: c :: rest => .argument c :: items rest
  | c :: rest => .bytes (Text.encodeBytes (String.singleton c)) :: items rest
termination_by cs => cs.length
decreasing_by all_goals (simp only [List.length_cons, List.length_drop]; omega)

/-- Text with backslashes, and without conversions. An octal number may begin with one more
zero. -/
def unescape : List Char → List UInt8
  | [] => []
  | '\\' :: rest =>
    let places := if rest.head? = some '0' then 4 else 3
    let digits := (rest.take places).takeWhile isOctal
    if digits ≠ [] then octalByte digits :: unescape (rest.drop digits.length)
    else match rest with
      | [] => [92]
      | c :: rest => escaped c ++ unescape rest
  | c :: rest => Text.encodeBytes (String.singleton c) ++ unescape rest
termination_by cs => cs.length
decreasing_by all_goals (simp only [List.length_cons, List.length_drop]; omega)

def convert (letter : Char) (argument : Option String) : List UInt8 :=
  match letter with
  | 's' => Text.encodeBytes (argument.getD "")
  | 'b' => unescape (argument.getD "").toList
  | 'c' => Text.encodeBytes (String.ofList ((argument.getD "").toList.take 1))
  | 'd' | 'i' | 'u' =>
    Text.encodeBytes (Number.intText
      ((Number.intWithin? Number.least64 Number.greatest64 (argument.getD "0")).getD 0))
  | c => Text.encodeBytes ("%" ++ String.singleton c)

/-- The format with arguments in place, and the arguments that are left. -/
def formatOnce : List Item → List String → List UInt8 × List String
  | [], arguments => ([], arguments)
  | .bytes bytes :: rest, arguments =>
    let (more, left) := formatOnce rest arguments
    (bytes ++ more, left)
  | .argument letter :: rest, arguments =>
    let (more, left) := formatOnce rest (arguments.drop 1)
    (convert letter arguments.head? ++ more, left)

/-- The format is used again as long as arguments are left. -/
def format (format : List Item) : Nat → List String → List UInt8
  | 0, _ => []
  | rounds + 1, arguments =>
    let (bytes, left) := formatOnce format arguments
    if left.isEmpty ∨ left.length = arguments.length then bytes
    else bytes ++ Shell.format format rounds left

def signal? (text : String) : Option Nat :=
  match Number.natOf? text.toList with
  | some n => if n ≤ signalNames.length then some n else none
  | none =>
    let name := (Text.after? "SIG" text).getD text
    (signalNames.findIdx? (· == name)).map (· + 1)

/-- Signals that nobody sees unless they are waited for. -/
def isIgnored (signal : Nat) : Bool := [0, 17, 18, 23, 28].contains signal

def kill (s : State) (signal : Option Nat) (process : String) : State :=
  match signal with
  | none => { s with status := 1 }
  | some n =>
    if process ≠ ownNumber then { s with status := 1 }
    else if isIgnored n then { s with status := 0 }
    else { s with ending := some (.killed n) }

def complain (s : State) (sinks : Sinks) (what : String) : State :=
  s.put sinks.errors (Text.encodeBytes ("/bin/sh: 1: " ++ what ++ "\n"))

def quit (s : State) (sinks : Sinks) (code : Option String) : State :=
  match code with
  | none => { s with ending := some (.exited s.status) }
  | some text =>
    match Number.natOf? text.toList with
    | some n => { s with ending := some (.exited (n % 256)) }
    | none =>
      { complain s sinks ("exit: Illegal number: " ++ text) with ending := some (.exited 2) }

/-- The name and value that a word gives to a variable. -/
def assignment? (field : String) : Option (String × String) := do
  let (name, value) ← Text.cutChar '=' field
  let first ← name.toList.head?
  if ! first.isDigit && name.toList.all Lexer.isNameChar then some (name, value) else none

def assign (s : State) : List String → Option State
  | [] => some { s with status := 0 }
  | field :: rest =>
    match assignment? field with
    | some (name, value) => assign { s with bindings := s.bindings.insert name value } rest
    | none => none

def holds : List String → Bool
  | "!" :: condition => ! holds condition
  | [text] | ["-n", text] => text ≠ ""
  | ["-z", text] => text = ""
  | [a, "=", b] => a = b
  | [a, "!=", b] => a ≠ b
  | _ => false

def perform (s : State) (sinks : Sinks) : List String → State
  | [] => { s with status := 0 }
  | "echo" :: arguments =>
    let (arguments, ending) : List String × List UInt8 := match arguments with
      | "-n" :: rest => (rest, [])
      | all => (all, [10])
    { s.put sinks.output (unescape (Text.join " " arguments).toList ++ ending) with status := 0 }
  | "printf" :: text :: arguments =>
    { s.put sinks.output (format (items text.toList) (arguments.length + 1) arguments) with status := 0 }
  | "exit" :: arguments => quit s sinks arguments.head?
  | ["kill", "-s", name, process] => kill s (signal? name) process
  | ["kill", process] => kill s (some 15) process
  | ["kill", name, process] => kill s ((Text.after? "-" name).bind signal?) process
  | "true" :: _ | ":" :: _ | "sleep" :: _ => { s with status := 0 }
  | "false" :: _ => { s with status := 1 }
  | "test" :: condition => { s with status := if holds condition then 0 else 1 }
  | "[" :: condition => { s with status := if holds condition.dropLast then 0 else 1 }
  | name :: arguments =>
    match assign s (name :: arguments) with
    | some s => s
    | none => { complain s sinks (name ++ ": not found") with status := 127 }

def applies (s : State) : Condition → Bool
  | .always => true
  | .success => s.status == 0
  | .failure => s.status != 0

def runCommand (s : State) (command : Command) : Option State :=
  if s.ending.isSome || command.words.isEmpty || ! applies s command.condition then some s
  else
    (command.redirections.foldlM (Sinks.redirect s) {}).map fun sinks =>
      perform s sinks (command.words.flatMap s.expand)

def runScript (bindings : Dictionary) (parameters : List String) (script : String) :
    Option Finished := do
  let commands ← commands? {} (← Lexer.tokens? script)
  let s ← commands.foldlM runCommand { bindings, parameters }
  return { output := s.output, errors := s.errors, ending := s.ending.getD (.exited s.status) }

/-! ### Programs -/

inductive Place where
  | directory
  | data
  | program (fault : Bool)
  | shell
  deriving DecidableEq, Repr

def isPath (s : String) : Bool := s.toList.contains '/'

/-- Programs have names of their own, or names in the directories for programs. -/
def place? (scratch path : String) : Option Place :=
  if ["/", "/bin", "/dev", "/etc", "/home", "/proc", "/root", "/sys", "/tmp", "/usr", "/usr/bin", "/var",
      scratch, ".", ".."].contains path then some .directory
  else if ["/dev/null", "/dev/zero", "/etc/group", "/etc/hostname", "/etc/hosts", "/etc/passwd"].contains path
  then some .data
  else
    let name := if isPath path then (Text.after? "/bin/" path <|> Text.after? "/usr/bin/" path).getD ""
      else path
    match name with
    | "sh" => some .shell
    | "true" => some (.program false)
    | "false" => some (.program true)
    | _ => none

/-- A path that ends in a slash, or goes on below, is one of a directory. -/
def above? (scratch path : String) : Option Place :=
  let pieces := Text.splitChar '/' path
  (List.range pieces.length).reverse.findSome? fun n =>
    let above := Text.join "/" (pieces.take n)
    if n = 0 ∨ above = "" then none else place? scratch above

def fault (scratch path : String) : StartFault :=
  if (Text.splitChar '/' path).any (255 < ·.utf8ByteSize) ∨ 4096 ≤ path.utf8ByteSize then .longName
  else match above? scratch path with
    | none => .missing
    | some .directory =>
      if place? scratch (Text.trimRightChar '/' path) = some .directory then .denied else .missing
    | some _ => .throughFile

/-- A process of a program that is known: the shell, or one that only succeeds or fails. The
name is that of an empty directory, besides those that are everywhere. -/
def start (scratch program : String) (arguments : List String) (bindings : Dictionary) :
    Option (Except StartFault Finished) :=
  if (program :: arguments).any (·.toList.contains '\x00') then some (.error .badName)
  else match place? scratch program with
    | some .shell =>
      match arguments with
      | "-c" :: script :: parameters =>
        (runScript bindings (if parameters.isEmpty then [program] else parameters) script).map .ok
      | [] => some (.ok {})
      | _ => none
    | some (.program fault) => some (.ok { ending := .exited (if fault then 1 else 0) })
    | some .directory | some .data => some (.error .denied)
    | none => some (.error (fault scratch program))

end ClusterBackup.Simulation.Shell
