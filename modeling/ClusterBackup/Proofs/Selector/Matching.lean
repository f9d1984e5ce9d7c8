import ClusterBackup.Cluster.LabelSelector

/-! What it is for a selector to match a label set.

Requirements are asked in order and the first that fails ends the asking, so an operator that nobody
knows is met only behind requirements that hold. A selector with such an operator matches nothing. -/

set_option autoImplicit false

namespace ClusterBackup.Cluster

variable {labels : Dictionary}

/-- What an operator asks of the value of a label, which may be absent. -/
def Operator.Asks (operator : Operator) (values : List String) (value : Option String) : Prop :=
  match operator with
  | .oneOf => ∃ v ∈ values, value = some v
  | .noneOf => ∀ v ∈ values, value ≠ some v
  | .present => value ≠ none
  | .absent => value = none

namespace Requirement

theorem accepts_iff (operator : Operator) (values : List String) (value : Option String) :
    accepts operator values value = true ↔ operator.Asks values value := by
  cases operator <;> cases value <;> simp [accepts, Operator.Asks]
  case noneOf.some value =>
    exact ⟨fun absent v present same => absent (same ▸ present),
      fun apart present => apart value present rfl⟩

def IsValid (r : Requirement) : Prop := ∃ operator, Operator.parse r.operator = .ok operator

/-- The operator is known, and what it asks is so. -/
def Matches (r : Requirement) (labels : Dictionary) : Prop :=
  ∃ operator, Operator.parse r.operator = .ok operator ∧
    operator.Asks (r.values.getD []) (labels.get? r.key)

theorem Matches.valid {r : Requirement} (found : r.Matches labels) : r.IsValid :=
  found.imp fun _ known => known.1

theorem holds_of_parse {r : Requirement} {operator : Operator}
    (known : Operator.parse r.operator = .ok operator) (labels : Dictionary) :
    r.holds labels = .ok (accepts operator (r.values.getD []) (labels.get? r.key)) := by
  rw [holds, known]
  rfl

theorem holds_eq_true_iff {r : Requirement} : r.holds labels = .ok true ↔ r.Matches labels := by
  cases known : Operator.parse r.operator with
  | error failure => simp [holds, Matches, known, bind, Except.bind]
  | ok operator => simp [holds_of_parse known, Matches, known, accepts_iff]

end Requirement

namespace LabelSelector

variable {s : LabelSelector}

def pairs (s : LabelSelector) : List (String × String) := (s.labels.map Dictionary.entries).getD []

def listed (s : LabelSelector) : List Requirement := s.requirements.getD []

def IsValid (s : LabelSelector) : Prop := ∀ r ∈ s.listed, r.IsValid

def Matches (s : LabelSelector) (labels : Dictionary) : Prop :=
  (∀ pair ∈ s.pairs, labels.get? pair.1 = some pair.2) ∧ ∀ r ∈ s.listed, r.Matches labels

theorem Matches.valid (found : s.Matches labels) : s.IsValid := fun r listed => (found.2 r listed).valid

theorem allHold_eq_true_iff {requirements : List Requirement} :
    allHold labels requirements = .ok true ↔ ∀ r ∈ requirements, r.Matches labels := by
  induction requirements with
  | nil => simp [allHold]
  | cons r rest ih =>
    rw [List.forall_mem_cons, ← Requirement.holds_eq_true_iff, ← ih]
    -- A failure and a requirement that does not hold both end the asking, and neither answers yes.
    cases answer : r.holds labels with
    | error failure => simp [allHold, answer, bind, Except.bind]
    | ok holds => cases holds <;> simp [allHold, answer, bind, Except.bind, pure, Except.pure]

theorem picks_eq (s : LabelSelector) (labels : Dictionary) :
    s.picks labels = if ∀ pair ∈ s.pairs, labels.get? pair.1 = some pair.2 then
      allHold labels s.listed else .ok false := by
  rw [picks, ← pairs, ← listed]
  by_cases equal : ∀ pair ∈ s.pairs, labels.get? pair.1 = some pair.2
  · rw [if_pos equal, if_neg]
    simpa using fun key value given => equal (key, value) given
  · rw [if_neg equal, if_pos]
    simpa using equal

theorem picks_eq_true_iff : s.picks labels = .ok true ↔ s.Matches labels := by
  rw [picks_eq, Matches]
  split
  · rename_i equal
    rw [allHold_eq_true_iff, and_iff_right equal]
  · rename_i different
    exact ⟨nofun, fun found => absurd found.1 different⟩

end LabelSelector

end ClusterBackup.Cluster
