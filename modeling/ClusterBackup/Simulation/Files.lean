import ClusterBackup.Tool.Environment

/-! Files in memory. -/

set_option autoImplicit false

namespace ClusterBackup.Simulation

inductive Node where
  | directory
  | file (mode : Nat) (content : List UInt8)
  deriving DecidableEq, Repr

/-- Nodes by their path from the root, which is always there. -/
structure Files where
  nodes : List (List String × Node) := []
  deriving Repr, Inhabited

namespace Files

inductive Fault where
  | missing
  | exists
  | notDirectory
  | isDirectory
  | nameTooLong
  | badName
  deriving DecidableEq, Repr

def Fault.describe : Fault → String
  | .missing => "No such file or directory (os error 2)"
  | .exists => "File exists (os error 17)"
  | .notDirectory => "Not a directory (os error 20)"
  | .isDirectory => "Is a directory (os error 21)"
  | .nameTooLong => "File name too long (os error 36)"
  | .badName => "file name contained an unexpected NUL byte"

/-- The names of a path in order; relative paths start at the root as well. -/
def namesOf (path : String) : List String :=
  (Text.splitChar '/' path).filter fun name => name ≠ "" ∧ name ≠ "."

def node? (files : Files) (names : List String) : Option Node :=
  if names = [] then some .directory else (files.nodes.find? (·.1 == names)).map (·.2)

def put (files : Files) (names : List String) (node : Node) : Files :=
  if files.nodes.any (·.1 == names) then
    { nodes := files.nodes.map fun entry => if entry.1 == names then (names, node) else entry }
  else { nodes := files.nodes ++ [(names, node)] }

def isDirectory (files : Files) (place : List String) : Bool := files.node? place == some .directory

/-- Where names lead. The last one may be new; all before it are directories. -/
def resolve (files : Files) (names : List String) : Except Fault (List String) :=
  names.foldlM (fun place name =>
    match files.node? place with
    | none => .error .missing
    | some (.file ..) => .error .notDirectory
    | some .directory =>
      if 255 < name.utf8ByteSize then .error .nameTooLong
      else .ok (if name = ".." then place.dropLast else place ++ [name])) []

def makeDirectory (files : Files) (names : List String) : Except Fault Files := do
  let place ← files.resolve names
  if (files.node? place).isSome then throw .exists
  return files.put place .directory

def leadsToDirectory (files : Files) (names : List String) : Bool :=
  match files.resolve names with
  | .ok place => files.isDirectory place
  | .error _ => false

def ensureDirectory (files : Files) (names : List String) : Except Fault Unit × Files :=
  match files.makeDirectory names with
  | .ok files => (.ok (), files)
  | .error fault => (if files.leadsToDirectory names then .ok () else .error fault, files)

/-- A directory, and the missing ones on the way to it, by its names from the last one. -/
def makeDirectories (files : Files) : List String → Except Fault Unit × Files
  | [] => (.ok (), files)
  | name :: above =>
    match files.ensureDirectory (name :: above).reverse with
    | (.error .missing, files) =>
      match files.makeDirectories above with
      | (.ok (), files) => files.ensureDirectory (name :: above).reverse
      | failed => failed
    | outcome => outcome

def write (files : Files) (names : List String) (content : List UInt8) : Except Fault Files := do
  let place ← files.resolve names
  match files.node? place with
  | some .directory => throw .isDirectory
  | some (.file mode _) => return files.put place (.file mode content)
  | none => return files.put place (.file 0o644 content)

def makePrivate (files : Files) (names : List String) : Except Fault Files := do
  let place ← files.resolve names
  match files.node? place with
  | some (.file _ content) => return files.put place (.file 0o600 content)
  | _ => throw .missing

/-- What is wrong with a path as a whole. -/
def pathFault? (path : String) : Option Fault :=
  if path.toList.contains '\x00' then some .badName
  else if path = "" then some .missing
  else if 4096 ≤ path.utf8ByteSize then some .nameTooLong
  else none

def changing (files : Files) (path : String) (change : List String → Except Fault Files) :
    Except Fault Unit × Files :=
  match pathFault? path with
  | some fault => (.error fault, files)
  | none =>
    match change (namesOf path) with
    | .ok files => (.ok (), files)
    | .error fault => (.error fault, files)

def perform (files : Files) : FileStep → Except Fault Unit × Files
  | .makeDirectory path =>
    match pathFault? path with
    | some .missing => (.ok (), files)
    | some fault => (.error fault, files)
    | none => files.makeDirectories (namesOf path).reverse
  | .write path content => files.changing path (files.write · content)
  | .makePrivate path => files.changing path files.makePrivate

def answer (step : FileStep) (files : Files) : Except Failure Unit × Files :=
  let (result, files) := files.perform step
  (result.mapError fun fault => .files fault.describe, files)

/-- The text of a file, with the directories on the way to it. -/
def place (files : Files) (path text : String) : Files :=
  let names := namesOf path
  let (_, files) := files.makeDirectories names.dropLast.reverse
  match files.write names (Text.encodeBytes text) with
  | .ok files => files
  | .error _ => files

def below (files : Files) (path : String) : List (String × Node) :=
  let names := namesOf path
  (files.nodes.filter fun entry => names.length < entry.1.length && names.isPrefixOf entry.1).map
    fun entry => (path ++ "/" ++ Text.join "/" (entry.1.drop names.length), entry.2)

end Files

end ClusterBackup.Simulation
