import ClusterBackup.Json.Shape
import ClusterBackup.Proofs.Json.Codec
import ClusterBackup.Proofs.Time.Text

/-! What is carried along of an object, and carried again.

Carrying drops members that a shape does not know, and puts in what it requires. Doing it again changes
nothing, if the shape names each member once and takes what it puts in itself. -/

set_option autoImplicit false

namespace ClusterBackup.Json

theorem mapM_again {α : Type} {f : α → Option α} {xs ys : List α} (mapped : xs.mapM f = some ys)
    (again : ∀ x ∈ xs, ∀ y, f x = some y → f y = some y) : ys.mapM f = some ys := by
  induction xs generalizing ys with
  | nil =>
    cases mapped
    rfl
  | cons x rest ih =>
    rw [List.forall_mem_cons] at again
    simp only [List.mapM_cons, Option.bind_eq_bind, Option.bind_eq_some_iff, Option.pure_def,
      Option.some.injEq] at mapped
    obtain ⟨y, first, others, later, rfl⟩ := mapped
    simp [again.1 y first, ih later again.2]

namespace Shape

/-! ### Stable shapes -/

/-- A value that is put in where there is none is taken again. -/
def keepsEmpty : Shape → Bool
  | .text | .flag | .bytes | .amount | .many _ | .table _ | .object .. => true
  | .whole type => type.low ≤ 0 && 0 ≤ type.high
  | _ => false

mutual
/-- Each member is named once, and what is required can be put in. -/
def isStable : Shape → Bool
  | .anything | .text | .flag | .whole _ | .instant | .bytes | .amount => true
  | .many element => isStable element
  | .table value => isStable value
  | .object _ fixed fields =>
    fixed.all (fun member => (fields.map (·.1)).all (· != member.1)) && areStable fields
  | .choice _ | .orNull _ | .record .. | .openRecord .. => false

def areStable : Fields → Bool
  | [] => true
  | (name, presence, shape) :: rest =>
    isStable shape && (presence != .required || keepsEmpty shape)
      && (rest.map (·.1)).all (· != name) && areStable rest
end

/-! ### Carried members -/

/-- Members in the order of the fields, as they are carried. -/
inductive Carried : Fields → Members → Prop where
  | nil : Carried [] []
  | without {name : String} {presence : Presence} {shape : Shape} {fields : Fields}
      {members : Members} : presence ≠ .required → Carried fields members →
      Carried ((name, presence, shape) :: fields) members
  | within {name : String} {presence : Presence} {shape : Shape} {fields : Fields}
      {members : Members} {j : Json} : j ≠ .null → carry? shape j = some j → Carried fields members →
      Carried ((name, presence, shape) :: fields) ((name, j) :: members)

variable {fields : Fields} {members : Members}

theorem Carried.named (carried : Carried fields members) :
    (members.map (·.1)).Sublist (fields.map (·.1)) := by
  induction carried with
  | nil => exact .refl _
  | without _ _ ih => exact ih.cons _
  | within _ _ _ ih => exact ih.cons_cons _

theorem Carried.again (carried : Carried fields members) (stable : areStable fields = true)
    (before : Members) (apart : ∀ name ∈ fields.map (·.1), before.get? name = none) :
    carryMembers? true fields (before ++ members) = some members := by
  -- A member that has been read moves from the members to those before, so that what is looked at
  -- stays the same while the fields get fewer.
  induction carried generalizing before with
  | nil => rfl
  | @without name presence shape fields members spare carried ih =>
    simp only [areStable, Bool.and_eq_true, List.all_eq_true, bne_iff_ne] at stable
    obtain ⟨⟨_, once⟩, rest⟩ := stable
    rw [List.map_cons, List.forall_mem_cons] at apart
    have absent : Members.get? members name = none :=
      Members.get?_eq_none fun member => once name (carried.named.subset member) rfl
    have missing : Members.get? (before ++ members) name = none := by
      rw [Members.get?_append, apart.1, absent]
      rfl
    rw [carryMembers?, ih rest before apart.2]
    simp [missing, spare]
  | @within name presence shape fields members j solid carry carried ih =>
    simp only [areStable, Bool.and_eq_true, List.all_eq_true, bne_iff_ne] at stable
    obtain ⟨⟨_, once⟩, rest⟩ := stable
    rw [List.map_cons, List.forall_mem_cons] at apart
    have found : Members.get? (before ++ (name, j) :: members) name = some j := by
      rw [Members.get?_append, apart.1, Members.get?_cons, if_pos rfl]
      rfl
    have later : carryMembers? true fields (before ++ (name, j) :: members) = some members := by
      rw [List.append_cons]
      refine ih rest _ fun other listed => ?_
      rw [Members.get?_append, apart.2 other listed, Members.get?_cons, if_neg (once other listed).symm]
      rfl
    rw [carryMembers?, later]
    simp [found, carry]

theorem carry?_object {name : String} {fixed : List (String × String)}
    (stable : isStable (.object name fixed fields) = true) (carried : Carried fields members) :
    carry? (.object name fixed fields) (.object members) = some (.object members) := by
  simp only [isStable, Bool.and_eq_true, List.all_eq_true, bne_iff_ne] at stable
  have absent (member : String × String) (listed : member ∈ fixed) : members.get? member.1 = none :=
    Members.get?_eq_none fun carries => stable.1 member listed member.1 (carried.named.subset carries) rfl
  have again := carried.again stable.2 [] fun _ _ => rfl
  rw [List.nil_append] at again
  rw [carry?, guard, if_pos (List.all_eq_true.mpr fun member listed => by simp [absent member listed]),
    again]
  rfl

theorem carryMembers?_congr {lenient : Bool} {others : Members}
    (same : ∀ name ∈ fields.map (·.1), members.get? name = others.get? name) :
    carryMembers? lenient fields members = carryMembers? lenient fields others := by
  induction fields with
  | nil => rfl
  | cons field rest ih =>
    obtain ⟨name, presence, shape⟩ := field
    rw [List.map_cons, List.forall_mem_cons] at same
    rw [carryMembers?, carryMembers?, ih same.2, same.1]

/-! ### What is put in -/

theorem empty_ne_null {shape : Shape} (keeps : keepsEmpty shape = true) : empty shape ≠ .null := by
  cases shape
  case orNull => cases keeps
  case anything => cases keeps
  all_goals simp [empty]

mutual
theorem carry?_empty : (shape : Shape) → isStable shape = true → keepsEmpty shape = true →
    carry? shape (empty shape) = some (empty shape)
  | .text, _, _ | .flag, _, _ | .bytes, _, _ | .amount, _, _ | .many _, _, _ | .table _, _, _ => rfl
  | .whole type, _, keeps => by
    have inside : type.low ≤ 0 ∧ 0 ≤ type.high := by simpa [keepsEmpty] using keeps
    simp [carry?, empty, within?, inside]
  | .object _ _ fields, stable, _ => by
    have fieldsStable : areStable fields = true := by
      simp only [isStable, Bool.and_eq_true] at stable
      exact stable.2
    rw [empty]
    exact carry?_object stable (carried_emptyMembers fields fieldsStable)

theorem carried_emptyMembers : (fields : Fields) → areStable fields = true →
    Carried fields (emptyMembers fields)
  | [], _ => .nil
  | (name, presence, shape) :: rest, stable => by
    simp only [areStable, Bool.and_eq_true, Bool.or_eq_true, bne_iff_ne] at stable
    obtain ⟨⟨⟨shapeStable, keeps⟩, _⟩, restStable⟩ := stable
    have later := carried_emptyMembers rest restStable
    rw [emptyMembers]
    by_cases due : presence = .required
    · have kept := keeps.resolve_left (not_not_intro due)
      rw [if_pos due]
      exact .within (empty_ne_null kept) (carry?_empty shape shapeStable kept) later
    · rw [if_neg due]
      exact .without due later
end

/-! ### What is carried -/

theorem carry?_ne_null {shape : Shape} {j k : Json} (stable : isStable shape = true)
    (carried : carry? shape j = some k) (solid : j ≠ .null) : k ≠ .null := by
  cases shape
  case anything =>
    cases carried
    exact solid
  case choice => cases stable
  case orNull => cases stable
  case record => cases stable
  case openRecord => cases stable
  all_goals
    rintro rfl
    cases j <;> simp [carry?, text?, bool?, within?, int32?, Option.bind_eq_some_iff] at carried

mutual
theorem carry?_again : (shape : Shape) → isStable shape = true → {j k : Json} →
    carry? shape j = some k → carry? shape k = some k
  | .anything, _, _, _, _ => rfl
  | .text, _, _, _, carried => by
    obtain ⟨s, _, rfl⟩ := Option.map_eq_some_iff.mp carried
    rfl
  | .flag, _, _, _, carried => by
    obtain ⟨b, _, rfl⟩ := Option.map_eq_some_iff.mp carried
    rfl
  | .whole type, _, j, _, carried => by
    obtain ⟨n, found, rfl⟩ := Option.map_eq_some_iff.mp carried
    have inside := (Codec.within type.low type.high).holds found
    exact congrArg (Option.map Json.integer) (if_pos inside)
  | .instant, _, _, _, carried => by
    obtain ⟨s, _, done⟩ := Option.bind_eq_some_iff.mp carried
    obtain ⟨s', parsed, rfl⟩ := Option.map_eq_some_iff.mp done
    obtain ⟨t, read, rfl⟩ := Option.map_eq_some_iff.mp parsed
    have again := Instant.textInSeconds_parsed (Instant.isProper_of_parse read)
    rw [carry?, text?, Option.bind_some, instantText?, again, Option.map_some]
  | .bytes, _, _, _, carried => by
    obtain ⟨s, _, done⟩ := Option.bind_eq_some_iff.mp carried
    obtain ⟨bytes, decoded, rfl⟩ := Option.map_eq_some_iff.mp done
    rw [carry?, text?, Option.bind_some, decoded, Option.map_some]
  | .amount, _, j, _, carried => by
    cases j with
    | string s =>
      cases carried
      rfl
    | integer n =>
      obtain ⟨m, found, rfl⟩ := Option.map_eq_some_iff.mp carried
      have inside : Number.least32 ≤ m ∧ m ≤ Number.greatest32 := Codec.int32.holds (j := .integer n) found
      exact congrArg (Option.map Json.integer) (if_pos inside)
    | _ => cases carried
  | .many element, stable, j, _, carried => by
    cases j with
    | array xs =>
      obtain ⟨ys, mapped, rfl⟩ := Option.map_eq_some_iff.mp carried
      have again := mapM_again mapped fun x _ y first => carry?_again element stable first
      simp [carry?, again]
    | _ => cases carried
  | .table value, stable, j, _, carried => by
    cases j with
    | object members =>
      obtain ⟨kept, mapped, rfl⟩ := Option.map_eq_some_iff.mp carried
      have again := mapM_again mapped fun x _ y first => by
        obtain ⟨k, here, rfl⟩ := Option.map_eq_some_iff.mp first
        exact congrArg (Option.map (x.1, ·)) (carry?_again value stable here)
      simp [carry?, again]
    | _ => cases carried
  | .object name fixed fields, stable, j, _, carried => by
    cases j with
    | object members =>
      -- The members that are carried stand behind fixed ones of other names, and are carried all
      -- the same.
      have fieldsStable : areStable fields = true := by
        simp only [isStable, Bool.and_eq_true] at stable
        exact stable.2
      obtain ⟨_, _, done⟩ := Option.bind_eq_some_iff.mp carried
      obtain ⟨kept, carriedMembers, rfl⟩ := Option.map_eq_some_iff.mp done
      exact carry?_object stable (carried_of_carryMembers? fields fieldsStable carriedMembers)
    | _ => cases carried

theorem carried_of_carryMembers? : (fields : Fields) → areStable fields = true →
    {members kept : Members} → carryMembers? true fields members = some kept → Carried fields kept
  | [], _, _, _, carried => by
    cases carried
    exact .nil
  | (name, presence, shape) :: rest, stable, members, kept, carried => by
    simp only [areStable, Bool.and_eq_true, Bool.or_eq_true, bne_iff_ne] at stable
    obtain ⟨⟨⟨shapeStable, keeps⟩, _⟩, restStable⟩ := stable
    rw [carryMembers?] at carried
    obtain ⟨others, later, done⟩ := Option.bind_eq_some_iff.mp carried
    have carriedRest := carried_of_carryMembers? rest restStable later
    have filled (due : presence = .required) : Carried ((name, presence, shape) :: rest)
        ((name, empty shape) :: others) := by
      have kept := keeps.resolve_left (not_not_intro due)
      exact .within (empty_ne_null kept) (carry?_empty shape shapeStable kept) carriedRest
    -- What is absent or null is put in if it is required, and left out if it is not.
    split at done
    case h_1 => 
      split at done
      · rename_i spare
        cases done
        exact .without spare carriedRest
      · rename_i due
        cases done
        exact filled (not_not.mp due)
    case h_2 =>
      split at done
      · rename_i due
        cases done
        exact filled (by simpa using due)
      · rename_i spare
        cases done
        exact .without (by simpa using spare) carriedRest
    case h_3 j solid _ =>
      obtain ⟨k, here, same⟩ := Option.bind_eq_some_iff.mp done
      cases same
      exact .within (carry?_ne_null shapeStable here solid) (carry?_again shape shapeStable here) carriedRest
end

end Shape

/-- What else an object holds. -/
@[simps -fullyApplied names read write Holds]
def Part.carried (fields : Fields) (stable : Shape.areStable fields = true) : Part Members where
  names := fields.map (·.1)
  read := Shape.carryMembers? true fields
  write := id
  Holds := Shape.Carried fields
  looks := Shape.carryMembers?_congr
  named := Shape.Carried.named
  back _ carried := carried.again stable [] fun _ _ => rfl
  holds := Shape.carried_of_carryMembers? fields stable

end ClusterBackup.Json
