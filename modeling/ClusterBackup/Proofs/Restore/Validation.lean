import ClusterBackup.Proofs.Restore.Selection
import ClusterBackup.Proofs.Text.Quoted
import ClusterBackup.Proofs.Time.Seconds
import Mathlib.Data.List.Count

/-! What the rules of a restore session have to keep to, and which rules are named when they do not.

The hosts that rules list are gone through once, from the first rule to the last one. The first host
that was there before is reported, with the rule that listed it before. That can be the same rule. -/

set_option autoImplicit false

namespace ClusterBackup.RestoreSessionSpec

/-! ### The first host that is listed again -/

section

variable {seen claimed : List (String × Nat)} {host : String} {earlier later : Nat}

/-- Up to what is reported no host is listed twice. -/
theorem firstRepeated_eq_some (again : firstRepeated seen claimed = some (host, earlier, later)) :
    ∃ before after, claimed = before ++ (host, later) :: after ∧ (before.map (·.1)).Nodup ∧
      (before.map (·.1)).Disjoint (seen.map (·.1)) ∧ (host, earlier) ∈ before ++ seen := by
  induction claimed generalizing seen with
  | nil => cases again
  | cons claim rest ih =>
    obtain ⟨listed, position⟩ := claim
    rw [firstRepeated] at again
    split at again
    · rename_i known first found
      have same := List.find?_some found
      obtain rfl : known = listed := eq_of_beq same
      cases again
      exact ⟨[], rest, rfl, List.nodup_nil, List.disjoint_nil_left _, List.mem_of_find?_eq_some found⟩
    · rename_i absent
      have new : listed ∉ seen.map (·.1) := fun member => by
        obtain ⟨entry, there, rfl⟩ := List.mem_map.mp member
        simpa using List.find?_eq_none.mp absent entry there
      obtain ⟨before, after, rfl, once, apart, known⟩ := ih again
      rw [List.map_cons, List.disjoint_cons_right] at apart
      refine ⟨(listed, position) :: before, after, rfl, List.nodup_cons.mpr ⟨apart.1, once⟩,
        List.disjoint_cons_left.mpr ⟨new, apart.2⟩, ?_⟩
      simp only [List.mem_append, List.mem_cons, List.cons_append] at known ⊢
      tauto

end

/-- The hosts that the rule in a position lists. -/
def targetsAt (rules : List RestoreRule) (position : Nat) : List String :=
  (rules[position]?.map (·.targets)).getD []

theorem claims_concat (rules : List RestoreRule) (rule : RestoreRule) :
    claims (rules ++ [rule]) = claims rules ++ rule.targets.map (·, rules.length) := by
  simp [claims, List.zipIdx_append]

theorem count_claims (rules : List RestoreRule) (host : String) (position : Nat) :
    (claims rules).count (host, position) = (targetsAt rules position).count host := by
  -- From the end of the list, so that the positions of the rules before stay as they are.
  induction rules using List.reverseRecOn with
  | nil => simp [claims, targetsAt]
  | append_singleton rules rule ih =>
    have here (k : Nat) : (rule.targets.map (·, rules.length)).count (host, k) =
        if k = rules.length then rule.targets.count host else 0 := by
      split_ifs with last
      · rw [last]
        exact List.count_map_of_injective _ (·, rules.length) (fun _ _ same => (Prod.mk.inj same).1) host
      · simp [List.count_eq_zero, Ne.symm last]
    rw [claims_concat, List.count_append, ih, here, targetsAt, targetsAt]
    obtain before | rfl | beyond := Nat.lt_trichotomy position rules.length
    · rw [List.getElem?_append_left before, if_neg before.ne, Nat.add_zero]
    · simp
    · rw [List.getElem?_eq_none beyond.le, if_neg beyond.ne', Nat.add_zero,
        List.getElem?_eq_none (List.length_append.trans_le (Nat.succ_le_of_lt beyond))]

theorem lt_of_mem_claims {rules : List RestoreRule} {host : String} {position : Nat}
    (listed : (host, position) ∈ claims rules) : position < rules.length := by
  by_contra beyond
  have none := count_claims rules host position
  rw [targetsAt, List.getElem?_eq_none (Nat.not_lt.mp beyond)] at none
  exact List.count_eq_zero.mp none listed

theorem pairwise_claims (rules : List RestoreRule) : (claims rules).Pairwise (·.2 ≤ ·.2) := by
  induction rules using List.reverseRecOn with
  | nil => exact .nil
  | append_singleton rules rule ih =>
    rw [claims_concat, List.pairwise_append]
    refine ⟨ih, ?_, ?_⟩
    · exact List.pairwise_map.mpr (List.pairwise_of_forall fun _ _ => Nat.le_refl _)
    · rintro ⟨host, position⟩ listed entry last
      obtain ⟨_, _, rfl⟩ := List.mem_map.mp last
      exact (lt_of_mem_claims listed).le

theorem mem_targetsAt_iff {rules : List RestoreRule} {host : String} {position : Nat} :
    host ∈ targetsAt rules position ↔ (host, position) ∈ claims rules := by
  rw [← List.count_pos_iff, ← List.count_pos_iff, count_claims]

theorem listed_of_firstRepeated {rules : List RestoreRule} {host : String} {earlier later : Nat}
    (again : firstRepeated [] (claims rules) = some (host, earlier, later)) :
    earlier ≤ later ∧ host ∈ targetsAt rules earlier ∧ host ∈ targetsAt rules later ∧
      (earlier = later ↔ 2 ≤ (targetsAt rules earlier).count host) := by
  obtain ⟨before, after, split, once, -, known⟩ := firstRepeated_eq_some again
  rw [List.append_nil] at known
  have sorted := pairwise_claims rules
  rw [split, List.pairwise_append, List.pairwise_cons] at sorted
  obtain ⟨-, ⟨upward, -⟩, across⟩ := sorted
  have ordered : earlier ≤ later := across _ known _ List.mem_cons_self
  simp only [mem_targetsAt_iff, ← count_claims, split]
  refine ⟨ordered, List.mem_append_left _ known, by simp, ?_, fun twice => ?_⟩
  · rintro rfl
    have first := List.count_pos_iff.mpr known
    rw [List.count_append, List.count_cons_self]
    omega
  · by_contra different
    -- The earlier rule's hosts come before the later rule's, and before them none is there twice.
    have single := List.nodup_iff_count_le_one.mp (List.Nodup.of_map _ once) (host, earlier)
    have behind : (host, earlier) ∉ (host, later) :: after := fun member => by
      rcases List.mem_cons.mp member with same | further
      · exact different (Prod.mk.inj same).2
      · have := upward _ further
        simp only at this
        omega
    rw [List.count_append, List.count_eq_zero.mpr behind] at twice
    omega

/-! ### Messages -/

theorem ruleName_append_inj {m n : Nat} {s t : String} (same : ruleName m ++ s = ruleName n ++ t) :
    m = n ∧ s = t := by
  have bracket (k : Nat) : ']' ∉ Number.digitsOf k := fun member =>
    absurd (Number.isDigit_of_mem member) (by decide)
  have chars (k : Nat) (rest : String) : (ruleName k ++ rest).toList =
      "rule[".toList ++ (Number.digitsOf k ++ ']' :: rest.toList) := by
    simp [ruleName, Number.textOf]
  have cut := Text.cutAt_append (bracket m) s.toList
  rw [List.append_cancel_left ((chars m s).symm.trans ((congrArg String.toList same).trans (chars n t))),
    Text.cutAt_append (bracket n)] at cut
  injection cut with cut
  injection cut with numbers rests
  refine ⟨?_, (String.toList_injective rests).symm⟩
  rw [← Number.valueOf_digitsOf m, ← numbers, Number.valueOf_digitsOf]

def conflict (earlier later : Nat) (host : String) : Failure :=
  .validation (ruleName earlier ++ " and " ++ ruleName later ++ " both match host " ++ Text.quote host)

theorem conflict_injective {earlier later earlier' later' : Nat} {host host' : String}
    (same : conflict earlier later host = conflict earlier' later' host') :
    earlier = earlier' ∧ later = later' ∧ host = host' := by
  injection same with same
  simp only [String.append_assoc] at same
  obtain ⟨rfl, rest⟩ := ruleName_append_inj same
  obtain ⟨rfl, quoted⟩ := ruleName_append_inj ((String.append_right_inj _).mp rest)
  exact ⟨rfl, rfl, Text.quote_injective ((String.append_right_inj _).mp quoted)⟩

theorem ne_conflict_of_number (n : Nat) (rest : String) (earlier later : Nat) (host : String) :
    Failure.validation (Number.textOf n ++ rest) ≠ conflict earlier later host := by
  intro same
  injection same with same
  obtain ⟨c, others, digits⟩ := List.exists_cons_of_ne_nil (Number.digitsOf_ne_nil n)
  have digit : Number.isDigit c := Number.isDigit_of_mem (digits ▸ List.mem_cons_self)
  have chars := congrArg (·.toList.head?) same
  simp [Number.textOf, ruleName, digits] at chars
  subst chars
  exact absurd digit (by decide)

theorem ne_conflict_of_ruleName {rest : String} (other : rest.toList.tail.head? ≠ some 'a')
    (position earlier later : Nat) (host : String) :
    Failure.validation (ruleName position ++ rest) ≠ conflict earlier later host := by
  intro same
  injection same with same
  simp only [String.append_assoc] at same
  rw [(ruleName_append_inj same).2] at other
  simp at other

theorem validate_eq_conflict_iff {spec : RestoreSessionSpec} {earlier later : Nat} {host : String} :
    spec.validate = .error (conflict earlier later host) ↔
      spec.rules.countP (·.targets.isEmpty) ≤ 1 ∧
      firstRepeated [] (claims spec.rules) = some (host, earlier, later) := by
  -- The other two reports are told from this one by their words.
  unfold validate
  simp only [Bind.bind, Except.bind, length_catchAlls]
  split
  · rename_i many
    refine ⟨fun reported => ?_, fun single => absurd single.1 (Nat.not_le.mpr many)⟩
    injection reported with reported
    simp only [String.append_assoc] at reported
    exact absurd reported (ne_conflict_of_number _ _ _ _ _)
  rename_i single
  split
  · rename_i host' earlier' later' again
    rw [again]
    refine ⟨fun reported => ⟨Nat.not_lt.mp single, ?_⟩, fun same => ?_⟩
    · injection reported with reported
      obtain ⟨rfl, rfl, rfl⟩ := conflict_injective reported
      rfl
    · cases same.2
      rfl
  rename_i once
  rw [once]
  split
  · rename_i both
    refine ⟨fun reported => ?_, fun again => absurd again.2 nofun⟩
    injection reported with reported
    exact absurd reported (ne_conflict_of_ruleName (by decide) _ _ _ _)
  · exact ⟨nofun, fun again => absurd again.2 nofun⟩

/-! ### Which rules are accepted -/

def Separate (rules : List RestoreRule) : Prop :=
  rules.Pairwise fun first second => ∀ host ∈ first.targets, host ∉ second.targets

instance (rules : List RestoreRule) : Decidable (Separate rules) :=
  inferInstanceAs (Decidable
    (rules.Pairwise fun first second => ∀ host ∈ first.targets, host ∉ second.targets))

/-- Rules are accepted if at most one of them is for all other hosts, no host is listed by two of them
or twice by one, and none asks for snapshots and for paths. A conflict is reported about two rules
that both list the host, or about one rule that lists it twice. -/
theorem validate_exact (spec : RestoreSessionSpec) :
    (spec.validate = .ok () ↔ spec.rules.countP (·.targets = []) ≤ 1 ∧ Separate spec.rules ∧
      (∀ rule ∈ spec.rules, rule.snapshots = [] ∨ rule.paths = []) ∧
      ∀ rule ∈ spec.rules, rule.targets.Nodup) ∧
    ∀ earlier later host, spec.validate = .error (conflict earlier later host) →
      earlier ≤ later ∧ host ∈ targetsAt spec.rules earlier ∧ host ∈ targetsAt spec.rules later ∧
        (earlier = later ↔ 2 ≤ (targetsAt spec.rules earlier).count host) := by
  refine ⟨?_, fun earlier later host reported =>
    listed_of_firstRepeated (validate_eq_conflict_iff.mp reported).2⟩
  have distinct : (spec.rules.flatMap (·.targets)).Nodup ↔
      (∀ rule ∈ spec.rules, rule.targets.Nodup) ∧ Separate spec.rules := List.nodup_flatMap
  have single : spec.rules.countP (·.targets.isEmpty) = spec.rules.countP (·.targets = []) := by
    simp only [← List.isEmpty_iff, Bool.decide_eq_true]
  rw [validate_eq_ok_iff, ← single]
  constructor
  · rintro ⟨alone, once, apart⟩
    exact ⟨alone, (distinct.mp once).2, apart, (distinct.mp once).1⟩
  · rintro ⟨alone, separate, apart, single⟩
    exact ⟨alone, distinct.mpr ⟨single, separate⟩, apart⟩

/-- Its only rule lists a host twice. -/
def doubled : RestoreSessionSpec where
  repository := "statefulset.db"
  rules := [{ targets := ["db-0", "db-0"], paths := ["/data"] }]

theorem validate_exact_doubled :
    doubled.validate = .error (conflict 0 0 "db-0") ∧ Separate doubled.rules ∧
      2 ≤ (targetsAt doubled.rules 0).count "db-0" := by
  have reported : doubled.validate = .error (conflict 0 0 "db-0") := rfl
  obtain ⟨-, -, -, twice⟩ := (validate_exact doubled).2 0 0 "db-0" reported
  exact ⟨reported, by decide, twice.mp rfl⟩

end ClusterBackup.RestoreSessionSpec
