import ClusterBackup.Text.Scan

/-! One field of a calendar expression: a list of items, and the numbers it stands
for in the range of its unit. -/

set_option autoImplicit false

namespace ClusterBackup.Calendar

/-- What an item begins with: every number, one number, a range, a range between names. -/
inductive Part where
  | all
  | point (n : Nat)
  | range (first last : Nat)
  | namedRange (first last : String)
  deriving DecidableEq, Repr

inductive Item where
  | plain (part : Part)
  | step (part : Part) (by' : Nat)
  | named (name : String)
  deriving DecidableEq, Repr

/-- A unit of the calendar: the smallest and largest number, and numbers with names. -/
structure Range where
  first : Nat
  last : Nat
  names : List (String × Nat)
  deriving Repr

def seconds : Range := ⟨0, 59, []⟩

def minutes : Range := ⟨0, 59, []⟩

def hours : Range := ⟨0, 23, []⟩

def daysOfMonth : Range := ⟨1, 31, []⟩

def months : Range := ⟨1, 12, [
  ("jan", 1), ("january", 1), ("feb", 2), ("february", 2), ("mar", 3), ("march", 3),
  ("apr", 4), ("april", 4), ("may", 5), ("jun", 6), ("june", 6), ("jul", 7), ("july", 7),
  ("aug", 8), ("august", 8), ("sep", 9), ("september", 9), ("oct", 10), ("october", 10),
  ("nov", 11), ("november", 11), ("dec", 12), ("december", 12)]⟩

/-- Days of the week from Sunday, 1, to Saturday, 7. -/
def daysOfWeek : Range := ⟨1, 7, [
  ("sun", 1), ("sunday", 1), ("mon", 2), ("monday", 2), ("tue", 3), ("tues", 3), ("tuesday", 3),
  ("wed", 4), ("wednesday", 4), ("thu", 5), ("thurs", 5), ("thursday", 5),
  ("fri", 6), ("friday", 6), ("sat", 7), ("saturday", 7)]⟩

def years : Range := ⟨1970, 2100, []⟩

namespace Range

def has (r : Range) (n : Nat) : Bool := r.first ≤ n && n ≤ r.last

def between (first last : Nat) : List Nat := List.range' first (last + 1 - first)

def all (r : Range) : List Nat := between r.first r.last

def ofName? (r : Range) (name : String) : Option Nat :=
  (r.names.find? (·.1 == Text.lowerAscii name)).map (·.2)

def between? (r : Range) (first last : Nat) : Option (List Nat) :=
  if r.has first && r.has last && first ≤ last then some (between first last) else none

end Range

def Part.numbers? (r : Range) : Part → Option (List Nat)
  | .all => some r.all
  | .point n => if r.has n then some [n] else none
  | .range first last => r.between? first last
  | .namedRange first last => do r.between? (← r.ofName? first) (← r.ofName? last)

def everyNth (n : Nat) (numbers : List Nat) : List Nat :=
  (numbers.zipIdx.filter fun (_, i) => i % n = 0).map (·.1)

/-- A step after a single number runs from that number to the end of the range. -/
def Item.numbers? (r : Range) : Item → Option (List Nat)
  | .plain part => part.numbers? r
  | .named name => (r.ofName? name).map ([·])
  | .step part by' =>
    if by' = 0 then none
    else do
      let base ← match part with
        | .point n => if r.has n then some (Range.between n r.last) else none
        | part => part.numbers? r
      some (everyNth by' base)

/-- The numbers of a field in ascending order, or nothing if an item is out of range. -/
def numbers? (r : Range) (items : List Item) : Option (List Nat) := do
  let chosen ← items.mapM (·.numbers? r)
  some (r.all.filter (chosen.flatten.contains ·))

end ClusterBackup.Calendar
