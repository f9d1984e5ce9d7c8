import ClusterBackup.Json.Shape
import ClusterBackup.Json.Skip

/-! Reading JSON text as a value of a shape. The first fault counts, be it one of the text or one
of the shape. Lists and objects are nested at most 127 deep. -/

set_option autoImplicit false

namespace ClusterBackup.Json

open Number

abbrev Step := List Char → Placed (Found Json)

/-- Lists and objects may open while more than one level is left. -/
def deeper {α : Type} (depth : Nat) (cs : List Char) (next : Placed α) : Placed α :=
  if depth ≤ 1 then failIn .tooDeep cs else next

def closed {α : Type} (r : α × List Char) : α × List Char := (r.1, r.2.drop 1)

/-- A value of any shape. The first number bounds the steps, the second the levels of nesting. -/
def value : Nat → Nat → List Char → Placed (Found Json)
  | 0, _, cs => failAt .tooDeep cs
  | bound + 1, depth, cs =>
    match skipBlanks cs with
    | [] => failAt .endInValue []
    | 'n' :: rest => word .null ['u', 'l', 'l'] rest
    | 't' :: rest => word (.bool true) ['r', 'u', 'e'] rest
    | 'f' :: rest => word (.bool false) ['a', 'l', 's', 'e'] rest
    | '"' :: rest => (stringToken rest).map fun (s, rest) => (.string s, rest)
    | '[' :: rest => deeper depth ('[' :: rest) do
      let step (done : List Json) (cs : List Char) : Placed (Found (List Json)) :=
        (value bound (depth - 1) cs).map fun (x, rest) => (x :: done, rest)
      let (done, rest) ← eachElement step (rest.length + 1) true [] rest
      return closed (.array done.reverse, rest)
    | '\x7b' :: rest => deeper depth ('\x7b' :: rest) do
      let step (done : Members) (key : String) (cs : List Char) : Placed (Found Members) := do
        let (x, rest) ← value bound (depth - 1) (← colon cs)
        return ((key, x) :: done, rest)
      let (done, rest) ← eachMember step (rest.length + 1) true [] rest
      return closed (.object done.reverse, rest)
    | c :: rest => if c = '-' ∨ isDigit c then number (c :: rest) else failIn .noValue (c :: rest)

/-- What is found instead of a value that is expected. A list or an object is not looked into. -/
def mismatch {α : Type} (expected : String) (cs : List Char) : Placed α := do
  let (found, rest) ← match skipBlanks cs with
    | '[' :: rest => .ok (.array [], '[' :: rest)
    | '\x7b' :: rest => .ok (.object [], '\x7b' :: rest)
    | cs => value 1 0 cs
  failAt (.wrongType found expected) rest

def textual (expected : String) (say : String → Except String Json) (cs : List Char) :
    Placed (Found Json) :=
  match skipBlanks cs with
  | [] => failAt .endInValue []
  | '"' :: rest => do
    let (s, rest) ← stringToken rest
    match say s with
    | .ok j => return (j, rest)
    | .error reason => failAt (.unreadable reason) rest
  | cs => mismatch expected cs

def integral (type : IntegerType) (expected : String) (cs : List Char) : Placed (Found Json) :=
  match skipBlanks cs with
  | [] => failAt .endInValue []
  | c :: rest =>
    if c = '-' ∨ isDigit c then do
      let (j, rest) ← number (c :: rest)
      match j with
      | .integer n =>
        if type.low ≤ n ∧ n ≤ type.high then return (j, rest)
        else failAt (.wrongValue j expected) rest
      | j => failAt (.wrongType j expected) rest
    else mismatch expected (c :: rest)

def orNull (one : Step) : Step := fun cs =>
  match skipBlanks cs with
  | 'n' :: rest => word .null ['u', 'l', 'l'] rest
  | cs => one cs

def known (names : List String) (name : String) (rest : List Char) : Placed (Found Json) :=
  if names.contains name then .ok (.string name, rest) else failAt (.unknownName name names) rest

/-- A name of a closed list, alone or with null in an object. -/
def chosen (names : List String) (depth : Nat) (cs : List Char) : Placed (Found Json) :=
  match skipBlanks cs with
  | [] => failAt .endInValue []
  | '"' :: rest => do
    let (name, rest) ← stringToken rest
    known names name rest
  | '\x7b' :: rest => deeper depth ('\x7b' :: rest) do
    let (name, rest) ← textual "variant identifier" (fun s => .ok (.string s)) rest
    let (name, rest) ← known names (name.text?.getD "") rest
    let rest ← colon rest
    let (_, rest) ← match skipBlanks rest with
      | [] => failAt .endInValue []
      | 'n' :: rest => word .null ['u', 'l', 'l'] rest
      | cs => mismatch "unit" cs
    match skipBlanks rest with
    | '\x7d' :: rest => return (name, rest)
    | [] => failAt .endInObject []
    | rest => failAt .noValue rest
  | cs => failIn .noValue cs

def allowsNull : Presence → Bool
  | .optional | .nullable => true
  | _ => false

def member (one : Shape → Step) (presence : Presence) (shape : Shape) : Step :=
  if allowsNull presence then orNull (one shape) else one shape

def firstMissing? (fields : Fields) (members : Members) : Option String :=
  (fields.find? fun (name, presence, _) =>
    presence == .required && ! members.any (·.1 == name)).map (·.1)

/-- The members of a record after its opening brace, each at most once. -/
def recordMembers (one : Shape → Step) (other : List Char → Placed (List Char))
    (fields : Fields) : Step := fun cs => do
  let step (done : Members) (key : String) (cs : List Char) : Placed (Found Members) :=
    match fields.find? (·.1 == key) with
    | none => do return (done, ← other (← colon cs))
    | some (_, presence, shape) =>
      if done.any (·.1 == key) then failAt (.repeatedMember key) (pastObject cs)
      else do
        let (x, rest) ← member one presence shape (← colon cs)
        return ((key, x) :: done, rest)
  let (done, rest) ← eachMember step (cs.length + 1) true [] cs
  match firstMissing? fields done with
  | some name => failAt (.missingMember name) (rest.drop 1)
  | none => return closed (.object done.reverse, rest)

def lengthText (name : String) (count : Nat) : String :=
  "struct " ++ name ++ " with " ++ textOf count ++ (if count = 1 then " element" else " elements")

/-- The values of a record's members in their order, after an opening bracket. The last ones may be
missing. -/
def recordValues (one : Shape → Step) (name : String) (total : Nat) : Fields → Members → Step
  | [], done, cs => do return (.object done.reverse, ← listEnd cs)
  | (key, presence, shape) :: more, done, cs => do
    match ← nextElement done.isEmpty cs with
    | some rest =>
      let (x, rest) ← member one presence shape rest
      recordValues one name total more ((key, x) :: done) rest
    | none =>
      if presence = .required ∨ presence = .nullable then
        failAt (.wrongLength (total - (more.length + 1)) (lengthText name total)) (pastList cs)
      else recordValues one name total more done cs

/-- Members by name. Of two with one name the later counts. -/
def addMember (members : Members) (name : String) (j : Json) : Members :=
  (name, j) :: members.filter (·.1 != name)

/-- The members of an object of a cluster, after its opening brace. -/
def objectMembers (one : Shape → Step) (fixed : List (String × String))
    (fields : Fields) : Step := fun cs => do
  let step (done : Members) (key : String) (cs : List Char) : Placed (Found Members) := do
    let cs ← colon cs
    match fixed.find? (·.1 == key), fields.find? (·.1 == key) with
    | some (_, expected), _ =>
      let (found, rest) ← one .text cs
      if found == .string expected then return (done, rest)
      else failAt (.wrongValue found expected) (pastObject rest)
    | none, some (_, _, shape) =>
      let (x, rest) ← orNull (one shape) cs
      return (addMember done key x, rest)
    | none, none => return (done, ← skip (cs.length + 1) cs)
  let (done, rest) ← eachMember step (cs.length + 1) true [] cs
  return closed (.object done.reverse, rest)

def listElements (one : Step) : Step := fun cs => do
  let step (done : List Json) (cs : List Char) : Placed (Found (List Json)) :=
    (one cs).map fun (x, rest) => (x :: done, rest)
  let (done, rest) ← eachElement step (cs.length + 1) true [] cs
  return closed (.array done.reverse, rest)

def tableEntries (one : Step) : Step := fun cs => do
  let step (done : Members) (key : String) (cs : List Char) : Placed (Found Members) := do
    let (x, rest) ← one (← colon cs)
    return (addMember done key x, rest)
  let (done, rest) ← eachMember step (cs.length + 1) true [] cs
  return closed (.object done.reverse, rest)

def amount (expected : String) (depth : Nat) (cs : List Char) : Placed (Found Json) :=
  match skipBlanks cs with
  | [] => failAt .endInValue []
  | '"' :: rest => (stringToken rest).map fun (s, rest) => (.string s, rest)
  | '[' :: rest => deeper depth ('[' :: rest)
      (failAt (.wrongType (.array []) expected) (pastList rest))
  | '\x7b' :: rest => deeper depth ('\x7b' :: rest)
      (failAt (.wrongType (.object []) expected) (pastObject rest))
  | cs =>
    match value 1 0 cs with
    | .ok (.integer n, rest) =>
      if signed32.low ≤ n ∧ n ≤ signed32.high then .ok (.integer n, rest)
      else failAt (.wrongValue (.integer n) "a 32-bit integer") rest
    | .ok (found, rest) => failAt (.wrongType found expected) rest
    | .error fault => .error fault

/-- A value of a shape, without the members that the shape does not know. Null is left where it
may stand. The numbers are bounds as for any value. -/
def readShape : Nat → Nat → Shape → List Char → Placed (Found Json)
  | 0, _, _, cs => failAt .tooDeep cs
  | bound + 1, depth, shape, cs =>
    let expected := shape.expectation
    let one := readShape bound (depth - 1)
    match shape with
    | .anything => value (bound + 1) depth cs
    | .text => textual expected (fun s => .ok (.string s)) cs
    | .instant => textual expected instantValue cs
    | .bytes => textual expected bytesValue cs
    | .flag =>
      match skipBlanks cs with
      | [] => failAt .endInValue []
      | 't' :: rest => word (.bool true) ['r', 'u', 'e'] rest
      | 'f' :: rest => word (.bool false) ['a', 'l', 's', 'e'] rest
      | cs => mismatch expected cs
    | .whole type => integral type expected cs
    | .amount => amount expected depth cs
    | .choice names => chosen names depth cs
    | .orNull shape => orNull (readShape bound depth shape) cs
    | .many element =>
      match skipBlanks cs with
      | [] => failAt .endInValue []
      | '[' :: rest => deeper depth ('[' :: rest) (listElements (one element) rest)
      | cs => mismatch expected cs
    | .table entry =>
      match skipBlanks cs with
      | [] => failAt .endInValue []
      | '\x7b' :: rest => deeper depth ('\x7b' :: rest) (tableEntries (one entry) rest)
      | cs => mismatch expected cs
    | .record name fields =>
      match skipBlanks cs with
      | [] => failAt .endInValue []
      | '[' :: rest =>
        deeper depth ('[' :: rest) (recordValues one name fields.length fields [] rest)
      | '\x7b' :: rest =>
        deeper depth ('\x7b' :: rest)
          (recordMembers one (fun cs => skip (cs.length + 1) cs) fields rest)
      | cs => mismatch expected cs
    | .openRecord _ fields =>
      match skipBlanks cs with
      | [] => failAt .endInValue []
      | '\x7b' :: rest =>
        deeper depth ('\x7b' :: rest)
          (recordMembers one (fun cs => (value bound (depth - 1) cs).map (·.2)) fields rest)
      | cs => mismatch expected cs
    | .object _ fixed fields =>
      match skipBlanks cs with
      | [] => failAt .endInValue []
      | '[' :: rest => deeper depth ('[' :: rest)
          (failAt (.wrongType (.array []) expected) (pastList rest))
      | '\x7b' :: rest => deeper depth ('\x7b' :: rest) (objectMembers one fixed fields rest)
      | cs => mismatch expected cs
where
  instantValue (s : String) : Except String Json :=
    match Instant.read s with
    | .ok _ => .ok (.string s)
    | .error reason => .error reason.describe
  bytesValue (s : String) : Except String Json :=
    match Text.Base64.read s with
    | .ok _ => .ok (.string s)
    | .error reason => .error reason.describe

def read (shape : Shape) (s : String) : Except String Json :=
  let cs := s.toList
  let value := do
    let (j, rest) ← readShape (2 * cs.length + 2) 128 shape cs
    if (skipBlanks rest).isEmpty then return j else failIn .trailingCharacters (skipBlanks rest)
  value.mapError (·.describe cs)

end ClusterBackup.Json
