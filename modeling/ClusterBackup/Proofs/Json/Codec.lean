import ClusterBackup.Json.Value
import Mathlib.Data.List.Nodup
import Mathlib.Tactic.Simps.Basic

/-! Codecs: a reader and a writer of JSON that fit together.

What is written of a value is read as that value, and what is read is a value that is read back. Parts
of a record are told by the names of their members, so a record whose names are distinct is read back
if its parts are. -/

set_option autoImplicit false

namespace ClusterBackup.Json

/-! ### Members by name -/

namespace Members

@[simp] theorem get?_nil (name : String) : Members.get? [] name = none := rfl

theorem get?_cons (first name : String) (j : Json) (rest : Members) :
    Members.get? ((first, j) :: rest) name = if first = name then some j else Members.get? rest name := by
  by_cases same : first = name <;> simp [Members.get?, same]

theorem get?_append (xs ys : Members) (name : String) :
    Members.get? (xs ++ ys) name = (Members.get? xs name).or (Members.get? ys name) := by
  simp [Members.get?, List.find?_append, Option.map_or]

theorem get?_eq_none {members : Members} {name : String} (absent : name ∉ members.map (·.1)) :
    members.get? name = none := by
  rw [Members.get?, Option.map_eq_none_iff, List.find?_eq_none]
  intro member listed same
  exact absent (List.mem_map.mpr ⟨member, listed, by simpa using same⟩)

end Members

theorem record?_of_nodup {members : Members} (distinct : (members.map (·.1)).Nodup)
    (names : List String) : record? names (.object members) = some members := by
  refine if_pos (List.all_eq_true.mpr fun name _ => decide_eq_true ?_)
  have once := List.nodup_iff_count_le_one.mp distinct name
  rwa [List.count_eq_countP, List.countP_map, List.countP_eq_length_filter] at once

/-! ### Codecs -/

structure Codec (α : Type) where
  read : Json → Option α
  write : α → Json
  /-- The values that there can be. -/
  Holds : α → Prop
  back : ∀ {a : α}, Holds a → read (write a) = some a
  holds : ∀ {j : Json} {a : α}, read j = some a → Holds a
  solid : ∀ a : α, write a ≠ .null

namespace Codec

variable {α : Type}

/-- What has been read is read back. -/
theorem read_back (c : Codec α) {j : Json} {a : α} (read : c.read j = some a) :
    c.read (c.write a) = some a := c.back (c.holds read)

/-- The same codec by the names that its functions have, and its values have. -/
@[simps -fullyApplied read write Holds]
def as (c : Codec α) (read : Json → Option α) (write : α → Json) (Holds : α → Prop)
    (reads : ∀ j, c.read j = read j) (writes : ∀ a, c.write a = write a)
    (proper : ∀ a, c.Holds a ↔ Holds a) : Codec α where
  read := read
  write := write
  Holds := Holds
  back := by
    intro a holds
    rw [← writes, ← reads]
    exact c.back ((proper a).mpr holds)
  holds := by
    intro j a done
    rw [← reads] at done
    exact (proper a).mp (c.holds done)
  solid a := writes a ▸ c.solid a

@[simps -fullyApplied read write Holds]
def text : Codec String where
  read := text?
  write := .string
  Holds _ := True
  back _ := rfl
  holds _ := trivial
  solid _ := nofun

theorem text_holds (s : String) : text.Holds s := trivial

@[simps -fullyApplied read write Holds]
def flag : Codec Bool where
  read := bool?
  write := .bool
  Holds _ := True
  back _ := rfl
  holds _ := trivial
  solid _ := nofun

theorem flag_holds (b : Bool) : flag.Holds b := trivial

/-- Integers from a range. -/
@[simps -fullyApplied read write Holds]
def within (low high : Int) : Codec Int where
  read := within? low high
  write := .integer
  Holds n := low ≤ n ∧ n ≤ high
  back inside := if_pos inside
  holds := by
    intro j n read
    cases j with
    | integer m =>
      obtain ⟨inside, same⟩ := Option.ite_none_right_eq_some.mp read
      cases same
      exact inside
    | _ => cases read
  solid _ := nofun

@[simps! -fullyApplied read write Holds]
def int32 : Codec Int :=
  (within Number.least32 Number.greatest32).as int32? .integer
    (fun n => Number.least32 ≤ n ∧ n ≤ Number.greatest32) (fun _ => rfl) (fun _ => rfl) (fun _ => .rfl)

@[simps! -fullyApplied read write Holds]
def int64 : Codec Int :=
  (within Number.least64 Number.greatest64).as int64? .integer
    (fun n => Number.least64 ≤ n ∧ n ≤ Number.greatest64) (fun _ => rfl) (fun _ => rfl) (fun _ => .rfl)

theorem int64_holds_zero : int64.Holds 0 := by simp [Number.least64, Number.greatest64]

@[simps -fullyApplied read write Holds]
def nat32 : Codec Nat where
  read := nat32?
  write := nat
  Holds n := n < Number.limit32
  back := by
    intro n small
    have inside : (0 : Int) ≤ n ∧ (n : Int) ≤ Number.limit32 - 1 := by omega
    have read : within? 0 (Number.limit32 - 1) (nat n) = some (n : Int) :=
      (within 0 (Number.limit32 - 1)).back inside
    rw [nat32?, read]
    rfl
  holds := by
    intro j n read
    obtain ⟨m, done, rfl⟩ := Option.map_eq_some_iff.mp read
    obtain ⟨low, high⟩ : 0 ≤ m ∧ m ≤ Number.limit32 - 1 :=
      (within 0 (Number.limit32 - 1)).holds done
    omega
  solid _ := nofun

@[simps -fullyApplied read write Holds]
def choice (all : List α) (name : α → String) (complete : ∀ a, a ∈ all)
    (injective : Function.Injective name) : Codec α where
  read := choice? (all.map fun a => (name a, a))
  write a := .string (name a)
  Holds _ := True
  back := by
    intro a _
    -- The first of the values with the name of this one is this one, as no other has its name.
    have found : all.find? (name · == name a) = some a := by
      cases hit : all.find? (name · == name a) with
      | none => exact absurd (beq_self_eq_true (name a)) (List.find?_eq_none.mp hit a (complete a))
      | some b =>
        have same : name b = name a := by simpa using List.find?_some hit
        rw [injective same]
    change ((all.map fun b => (name b, b)).find? (·.1 == name a)).map (·.2) = some a
    rw [List.find?_map]
    exact congrArg (Option.map Prod.snd ∘ Option.map fun b => (name b, b)) found
  holds _ := trivial
  solid _ := nofun

@[simps -fullyApplied read write Holds]
def list (c : Codec α) : Codec (List α) where
  read := list? c.read
  write xs := .array (xs.map c.write)
  Holds xs := ∀ x ∈ xs, c.Holds x
  back := by
    intro xs each
    change (xs.map c.write).mapM c.read = some xs
    induction xs with
    | nil => rfl
    | cons x rest ih =>
      rw [List.forall_mem_cons] at each
      simp [c.back each.1, ih each.2]
  holds := by
    intro j xs read
    cases j with
    | array js =>
      change js.mapM c.read = some xs at read
      induction js generalizing xs with
      | nil =>
        cases read
        simp
      | cons j rest ih =>
        simp only [List.mapM_cons, Option.bind_eq_bind, Option.bind_eq_some_iff, Option.pure_def,
          Option.some.injEq] at read
        obtain ⟨x, first, others, later, rfl⟩ := read
        exact List.forall_mem_cons.mpr ⟨c.holds first, ih later⟩
    | _ => cases read
  solid _ := nofun

theorem list_holds_nil (c : Codec α) : (list c).Holds [] := List.forall_mem_nil _

end Codec

/-! ### Parts of records -/

/-- Members that are read and written together. -/
structure Part (α : Type) where
  names : List String
  read : Members → Option α
  write : α → Members
  Holds : α → Prop
  /-- Nothing but the members of its names is looked at. -/
  looks : ∀ {members others : Members},
    (∀ name ∈ names, members.get? name = others.get? name) → read members = read others
  named : ∀ {a : α}, Holds a → ((write a).map (·.1)).Sublist names
  back : ∀ {a : α}, names.Nodup → Holds a → read (write a) = some a
  holds : ∀ {members : Members} {a : α}, read members = some a → Holds a

namespace Part

variable {α β : Type}

@[simps -fullyApplied names read write Holds]
def required (name : String) (c : Codec α) : Part α where
  names := [name]
  read members := members.required name c.read
  write a := [(name, c.write a)]
  Holds := c.Holds
  looks same := by rw [Members.required, Members.required, same name List.mem_cons_self]
  named _ := .refl _
  back _ holds := by simp [Members.required, Members.get?_cons, c.back holds]
  holds read := by
    obtain ⟨j, _, read⟩ := Option.bind_eq_some_iff.mp read
    exact c.holds read

@[simps -fullyApplied names read write Holds]
def optional (name : String) (c : Codec α) : Part (Option α) where
  names := [name]
  read members := members.optional name c.read
  write := member? name c.write
  Holds o := ∀ a ∈ o, c.Holds a
  looks same := by rw [Members.optional, Members.optional, same name List.mem_cons_self]
  named := by
    rintro (_ | a) _
    · exact List.nil_sublist _
    · exact .refl _
  back := by
    intro o _ holds
    cases o with
    | none => rfl
    | some a =>
      have solid := c.solid a
      simp only [member?, Members.optional, Members.get?_cons, if_pos]
      rw [c.back (holds a rfl)]
      rfl
  holds := by
    intro members o read
    unfold Members.optional at read
    split at read
    · cases read
      nofun
    · cases read
      nofun
    · obtain ⟨a, done, rfl⟩ := Option.map_eq_some_iff.mp read
      intro b same
      cases same
      exact c.holds done

/-- A member that has a default. It may be left out where it has that value. -/
@[simps -fullyApplied names read write Holds]
def defaulted (name : String) (default : α) (c : Codec α) (skips : α → Bool)
    (sound : ∀ a, skips a = true → a = default) (proper : c.Holds default) : Part α where
  names := [name]
  read members := members.defaulted name default c.read
  write a := if skips a then [] else [(name, c.write a)]
  Holds := c.Holds
  looks same := by rw [Members.defaulted, Members.defaulted, same name List.mem_cons_self]
  named _ := by
    split
    · exact List.nil_sublist _
    · exact .refl _
  back := by
    intro a _ holds
    by_cases skipped : skips a = true
    · rw [if_pos skipped, sound a skipped]
      rfl
    · rw [if_neg skipped]
      simp [Members.defaulted, Members.get?_cons, c.back holds]
  holds := by
    intro members a read
    unfold Members.defaulted at read
    split at read
    · cases read
      exact proper
    · exact c.holds read

@[simps -fullyApplied names read write Holds]
def written (name : String) (default : α) (c : Codec α) (proper : c.Holds default) : Part α where
  __ := defaulted name default c (fun _ => false) nofun proper
  write a := [(name, c.write a)]

@[simps -fullyApplied names read write Holds]
def unlessEmpty (name : String) (c : Codec α) : Part (List α) where
  __ := defaulted name [] (.list c) List.isEmpty (fun _ => List.isEmpty_iff.mp) c.list_holds_nil
  write := memberUnlessEmpty name c.write

/-- A member that has a default, which stands for null as well. -/
@[simps -fullyApplied names read write Holds]
def lenient (name : String) (default : α) (c : Codec α) (proper : c.Holds default) : Part α where
  names := [name]
  read members := members.lenient name default c.read
  write a := [(name, c.write a)]
  Holds := c.Holds
  looks same := by rw [Members.lenient, Members.lenient, same name List.mem_cons_self]
  named _ := .refl _
  back := by
    intro a _ holds
    have solid := c.solid a
    simp only [Members.lenient, Members.get?_cons, if_pos]
    exact c.back holds
  holds := by
    intro members a read
    unfold Members.lenient at read
    split at read
    · cases read
      exact proper
    · cases read
      exact proper
    · exact c.holds read

@[simps -fullyApplied names read write Holds]
def both (p : Part α) (q : Part β) : Part (α × β) where
  names := p.names ++ q.names
  read members := do return (← p.read members, ← q.read members)
  write ab := p.write ab.1 ++ q.write ab.2
  Holds ab := p.Holds ab.1 ∧ q.Holds ab.2
  looks same := by
    rw [p.looks fun name listed => same name (List.mem_append_left _ listed),
      q.looks fun name listed => same name (List.mem_append_right _ listed)]
  named holds := by
    rw [List.map_append]
    exact (p.named holds.1).append (q.named holds.2)
  back := by
    rintro ⟨a, b⟩ distinct ⟨first, second⟩
    obtain ⟨left, right, apart⟩ := List.nodup_append.mp distinct
    -- Neither part has members that the other one looks at.
    have absent_right (name : String) (listed : name ∈ p.names) : (q.write b).get? name = none :=
      Members.get?_eq_none fun member => apart name listed name ((q.named second).subset member) rfl
    have absent_left (name : String) (listed : name ∈ q.names) : (p.write a).get? name = none :=
      Members.get?_eq_none fun member => apart name ((p.named first).subset member) name listed rfl
    have reads_left : p.read (p.write a ++ q.write b) = some a := by
      rw [← p.back left first]
      exact p.looks fun name listed => by
        rw [Members.get?_append, absent_right name listed, Option.or_none]
    have reads_right : q.read (p.write a ++ q.write b) = some b := by
      rw [← q.back right second]
      exact q.looks fun name listed => by
        rw [Members.get?_append, absent_left name listed, Option.none_or]
    rw [reads_left, reads_right]
    rfl
  holds := by
    rintro members ⟨a, b⟩ read
    obtain ⟨a', first, rest⟩ := Option.bind_eq_some_iff.mp read
    obtain ⟨b', second, same⟩ := Option.bind_eq_some_iff.mp rest
    cases same
    exact ⟨p.holds first, q.holds second⟩

/-- The same members for values that are as good. -/
@[simps -fullyApplied names read write Holds]
def iso (p : Part α) (pack : α → β) (unpack : β → α) (packed : ∀ b, pack (unpack b) = b)
    (unpacked : ∀ a, unpack (pack a) = a) : Part β where
  names := p.names
  read members := do return pack (← p.read members)
  write b := p.write (unpack b)
  Holds b := p.Holds (unpack b)
  looks same := by rw [p.looks same]
  named holds := p.named holds
  back distinct holds := by
    rw [p.back distinct holds]
    exact congrArg some (packed _)
  holds := by
    intro members b read
    obtain ⟨a, done, same⟩ := Option.bind_eq_some_iff.mp read
    cases same
    rw [unpacked]
    exact p.holds done

/-- A record of which a part is all. -/
@[simps -fullyApplied read write Holds]
def record (p : Part α) (distinct : p.names.Nodup) : Codec α where
  read j := do p.read (← record? p.names j)
  write a := .object (p.write a)
  Holds := p.Holds
  back := by
    intro a holds
    rw [record?_of_nodup ((p.named holds).nodup distinct)]
    exact p.back distinct holds
  holds read := by
    obtain ⟨members, _, read⟩ := Option.bind_eq_some_iff.mp read
    exact p.holds read
  solid _ := nofun

/-- An object of a cluster of which a part is all. -/
@[simps -fullyApplied read write Holds]
def object (p : Part α) (distinct : p.names.Nodup) : Codec α where
  read j := do p.read (← j.members?)
  write a := .object (p.write a)
  Holds := p.Holds
  back := p.back distinct
  holds read := by
    obtain ⟨members, _, read⟩ := Option.bind_eq_some_iff.mp read
    exact p.holds read
  solid _ := nofun

end Part

end ClusterBackup.Json
