import ClusterBackup.Simulation.Store

/-! What is found in the store after a write: the object that was written, and every other object
as it was before. A replacement is accepted at the version that is stored and gives the object the
next one; otherwise the store stays as it is. -/

set_option autoImplicit false

/-! ### Objects that are looked for -/

namespace ClusterBackup.Simulation.Store

open Cluster

variable {kind other : ResourceKind}

def pick (kind : ResourceKind) (nameSpace name : String) (s : Stored) : Option (Resource kind) :=
  (Stored.as? kind s).filter fun r => isAt nameSpace name r.metadata

theorem find?_eq_pick (store : Store) (kind : ResourceKind) (nameSpace name : String) :
    store.find? kind nameSpace name = store.objects.findSome? (pick kind nameSpace name) := rfl

theorem isAt_iff (nameSpace name : String) (m : Metadata) :
    isAt nameSpace name m = true ↔ m.anyNameSpace = nameSpace ∧ m.anyName = name := by
  simp [isAt]

theorem pick_same (nameSpace name : String) (object : Resource kind) :
    pick kind nameSpace name ⟨kind, object⟩ =
      if isAt nameSpace name object.metadata then some object else none := by
  simp [pick, Stored.as?, Option.filter]

theorem pick_eq_none_of_kind {nameSpace name : String} {s : Stored} (different : s.kind ≠ kind) :
    pick kind nameSpace name s = none := by
  simp [pick, Stored.as?, different]

theorem pick_eq_some {nameSpace name : String} {s : Stored} {object : Resource kind}
    (found : pick kind nameSpace name s = some object) :
    s = ⟨kind, object⟩ ∧ object.nameSpace = nameSpace ∧ object.name = name := by
  obtain ⟨kind', object'⟩ := s
  by_cases same : kind' = kind
  · subst same
    rw [pick_same] at found
    split at found
    · rename_i here
      cases found
      exact ⟨rfl, (isAt_iff _ _ _).mp here⟩
    · cases found
  · rw [pick_eq_none_of_kind same] at found
    cases found

theorem find?_key {store : Store} {nameSpace name : String} {object : Resource kind}
    (found : store.find? kind nameSpace name = some object) :
    object.nameSpace = nameSpace ∧ object.name = name := by
  obtain ⟨_, s, _, _, picked, _⟩ := List.findSome?_eq_some_iff.mp found
  exact (pick_eq_some picked).2

theorem isSame_iff (object : Resource kind) (s : Stored) :
    isSame kind object.metadata s = true ↔
      (pick kind object.nameSpace object.name s).isSome = true := by
  obtain ⟨kind', object'⟩ := s
  by_cases same : kind' = kind
  · subst same
    simp only [isSame, beq_self_eq_true, Bool.true_and, pick_same, Resource.nameSpace,
      Resource.name]
    cases isAt object.metadata.anyNameSpace object.metadata.anyName object'.metadata <;> rfl
  · have none : pick kind object.nameSpace object.name ⟨kind', object'⟩ = none :=
      pick_eq_none_of_kind same
    simp [isSame, same, none]

theorem pick_eq_none_of_key {object : Resource kind} {s : Stored}
    (same : isSame kind object.metadata s = true) {nameSpace name : String}
    (different : ¬ (kind = other ∧ object.nameSpace = nameSpace ∧ object.name = name)) :
    pick other nameSpace name s = none := by
  obtain ⟨old, picked⟩ := Option.isSome_iff_exists.mp ((isSame_iff object s).mp same)
  obtain ⟨rfl, oldKey⟩ := pick_eq_some picked
  cases found : pick other nameSpace name ⟨kind, old⟩ with
  | none => rfl
  | some found' =>
    obtain ⟨sameObject, key⟩ := pick_eq_some found
    cases sameObject
    exact absurd ⟨rfl, oldKey.1.symm.trans key.1, oldKey.2.symm.trans key.2⟩ different

theorem isSame_self (object : Resource kind) :
    isSame kind object.metadata ⟨kind, object⟩ = true := by
  simp [isSame, isAt]

theorem find?_put_self (store : Store) (object : Resource kind) :
    (store.put kind object).find? kind object.nameSpace object.name = some object := by
  have here : pick kind object.nameSpace object.name ⟨kind, object⟩ = some object := by
    simp [pick_same, isAt, Resource.nameSpace, Resource.name]
  have absent (s : Stored) (differs : ¬ isSame kind object.metadata s = true) :
      pick kind object.nameSpace object.name s = none := by
    simpa using mt (isSame_iff object s).mpr differs
  rw [find?_eq_pick, put]
  -- An object of this name is replaced where it stands; without one the new object is the last.
  split
  · rename_i present
    simp only
    generalize store.objects = objects at present ⊢
    induction objects with
    | nil => simp at present
    | cons s rest ih =>
      by_cases same : isSame kind object.metadata s
      · simp [same, here]
      · have inRest : rest.any (isSame kind object.metadata) = true := by
          simpa [same] using present
        simp [same, absent s same, ih inRest]
  · rename_i missing
    have old : store.objects.findSome? (pick kind object.nameSpace object.name) = none := by
      rw [List.findSome?_eq_none_iff]
      exact fun s member => absent s fun same => missing (List.any_eq_true.mpr ⟨s, member, same⟩)
    simp [List.findSome?_append, old, here]

theorem find?_put_other (store : Store) (object : Resource kind) {nameSpace name : String}
    (different : ¬ (kind = other ∧ object.nameSpace = nameSpace ∧ object.name = name)) :
    (store.put kind object).find? other nameSpace name = store.find? other nameSpace name := by
  have away : pick other nameSpace name ⟨kind, object⟩ = none :=
    pick_eq_none_of_key (isSame_self object) different
  rw [find?_eq_pick, find?_eq_pick, put]
  split
  · simp only [List.findSome?_map]
    congr 1
    funext s
    -- What is replaced had the name of the new object, so nobody finds it who looks elsewhere.
    by_cases same : isSame kind object.metadata s
    · simp [same, away, pick_eq_none_of_key same different]
    · simp [same]
  · simp [List.findSome?_append, away]

end ClusterBackup.Simulation.Store

/-! ### Versions -/

namespace ClusterBackup

theorem Number.textOf_injective {m n : Nat} (same : textOf m = textOf n) : m = n := by
  have digits : digitsOf m = digitsOf n := String.ofList_injective same
  have value := congrArg (fun cs => Nat.ofDigitChars 10 cs 0) digits
  simpa [digitsOf] using value

namespace Resource

variable {kind : ResourceKind}

def stamped (version : Option String) (r : Resource kind) : Resource kind :=
  { r with metadata := { r.metadata with resourceVersion := version } }

@[simp] theorem stamped_version (version : Option String) (r : Resource kind) :
    (r.stamped version).metadata.resourceVersion = version := rfl

@[simp] theorem stamped_stamped (first second : Option String) (r : Resource kind) :
    (r.stamped first).stamped second = r.stamped second := rfl

@[simp] theorem stamped_self (r : Resource kind) : r.stamped r.metadata.resourceVersion = r := rfl

/-- The object has a version that a store has given. -/
def Numbered (r : Resource kind) (n : Nat) : Prop :=
  r.metadata.resourceVersion = some (Number.textOf n)

theorem Numbered.unique {r : Resource kind} {m n : Nat} (left : r.Numbered m)
    (right : r.Numbered n) : m = n :=
  Number.textOf_injective (Option.some.inj (left.symm.trans right))

end Resource

namespace Simulation.Store

variable {kind other : ResourceKind}

def IsNumbered (store : Store) : Prop :=
  ∀ {kind : ResourceKind} {nameSpace name : String} {object : Resource kind},
    store.find? kind nameSpace name = some object →
      ∃ n, object.Numbered n ∧ n ≤ store.version

theorem isNumbered_empty : IsNumbered {} := fun found => by cases found

theorem find?_accept_self (store : Store) (object : Resource kind) :
    (store.accept kind object).2.find? kind object.nameSpace object.name =
      some (withVersion (store.version + 1) object) :=
  find?_put_self store (withVersion (store.version + 1) object)

theorem find?_accept_other (store : Store) (object : Resource kind) {nameSpace name : String}
    (different : ¬ (kind = other ∧ object.nameSpace = nameSpace ∧ object.name = name)) :
    (store.accept kind object).2.find? other nameSpace name = store.find? other nameSpace name :=
  find?_put_other store (withVersion (store.version + 1) object) different

theorem IsNumbered.accept {store : Store} (numbered : store.IsNumbered) (object : Resource kind) :
    (store.accept kind object).2.IsNumbered := by
  intro other nameSpace name found here
  -- The object that is written has the new number; the other ones keep theirs, which is smaller.
  by_cases same : kind = other ∧ object.nameSpace = nameSpace ∧ object.name = name
  · obtain ⟨rfl, rfl, rfl⟩ := same
    rw [find?_accept_self] at here
    obtain rfl := Option.some.inj here
    exact ⟨store.version + 1, rfl, Nat.le_refl _⟩
  · rw [find?_accept_other store object same] at here
    obtain ⟨n, version, bound⟩ := numbered here
    exact ⟨n, version, Nat.le_succ_of_le bound⟩

/-- What comes of a replacement. -/
inductive Replaced (store : Store) (object : Resource kind) :
    Except Failure (Resource kind) → Store → Prop where
  | missing : store.find? kind object.nameSpace object.name = none →
      Replaced store object (.error (.notFound "object" object.nameSpace object.name)) store
  | stale {old : Resource kind} : store.find? kind object.nameSpace object.name = some old →
      old.metadata.resourceVersion ≠ object.metadata.resourceVersion →
      Replaced store object (.error (.conflict (object.key ++ " is stale"))) store
  | accepted {old : Resource kind} : store.find? kind object.nameSpace object.name = some old →
      old.metadata.resourceVersion = object.metadata.resourceVersion →
      Replaced store object (.ok (withVersion (store.version + 1) object))
        (store.accept kind object).2

theorem replace_replaced (store : Store) (object : Resource kind) :
    Replaced store object (store.replace kind object).1 (store.replace kind object).2 := by
  cases found : store.find? kind object.nameSpace object.name with
  | none =>
    simp only [replace, found]
    exact .missing found
  | some old =>
    by_cases same : old.metadata.resourceVersion = object.metadata.resourceVersion
    · simp only [replace, found, same, if_true]
      exact .accepted found same
    · simp only [replace, found, same, if_false]
      exact .stale found same

/-- What comes of making an object. -/
inductive Created (store : Store) (object : Resource kind) :
    Except Failure (Resource kind) → Store → Prop where
  | existing {old : Resource kind} : store.find? kind object.nameSpace object.name = some old →
      Created store object (.error (.conflict (object.key ++ " already exists"))) store
  | accepted : store.find? kind object.nameSpace object.name = none →
      Created store object (.ok (withVersion (store.version + 1) object))
        (store.accept kind object).2

theorem create_created (store : Store) (object : Resource kind) :
    Created store object (store.create kind object).1 (store.create kind object).2 := by
  rw [create]
  cases found : store.find? kind object.nameSpace object.name with
  | none => exact .accepted found
  | some old => exact .existing found

theorem replace_of_current {store : Store} {object old : Resource kind}
    (found : store.find? kind object.nameSpace object.name = some old)
    (same : old.metadata.resourceVersion = object.metadata.resourceVersion) :
    store.replace kind object =
      (.ok (store.accept kind object).1, (store.accept kind object).2) := by
  simp only [replace, found, same, if_true]

end Simulation.Store

end ClusterBackup
