import Mathlib.Data.List.Nodup
import ClusterBackup.Resource.Session

/-! Which rule of a restore session is for a host.

What a valid session requires is said of its rules without their positions, so it does not depend
on their order. It leaves one rule at most that can be meant. -/

set_option autoImplicit false

namespace ClusterBackup.RestoreSessionSpec

section

variable {seen claimed : List (String × Nat)}

/-- No host is found again if each of them is named once and none of them was there before. -/
theorem firstRepeated_eq_none_iff : firstRepeated seen claimed = none ↔
    (claimed.map (·.1)).Nodup ∧ (claimed.map (·.1)).Disjoint (seen.map (·.1)) := by
  induction claimed generalizing seen with
  | nil => simp [firstRepeated]
  | cons claim rest ih =>
    obtain ⟨host, position⟩ := claim
    have known : (seen.find? (·.1 == host)).isSome ↔ host ∈ seen.map (·.1) := by
      simp [List.find?_isSome]
    rw [firstRepeated, List.map_cons, List.nodup_cons, List.disjoint_cons_left, ← known]
    split
    · rename_i found
      simp [found]
    · rename_i absent
      rw [ih, List.map_cons, List.disjoint_cons_right, absent]
      simp only [Option.isSome_none, Bool.false_eq_true, not_false_eq_true, true_and]
      tauto

end

section

variable {rules others : List RestoreRule}

theorem length_catchAlls (rules : List RestoreRule) :
    (catchAlls rules).length = rules.countP (·.targets.isEmpty) := by
  have split : rules.zipIdx.filter (·.1.targets.isEmpty) =
      rules.zipIdx.filter ((·.targets.isEmpty) ∘ Prod.fst) := rfl
  rw [catchAlls, List.length_map, split, ← List.length_map (f := Prod.fst), ← List.filter_map,
    List.zipIdx_map_fst, List.countP_eq_length_filter]

theorem map_fst_claims (rules : List RestoreRule) :
    (claims rules).map (·.1) = rules.flatMap (·.targets) := by
  have named (rules : List RestoreRule) (first : Nat) :
      ((rules.zipIdx first).flatMap fun entry => entry.1.targets.map (·, entry.2)).map (·.1) =
        rules.flatMap (·.targets) := by
    induction rules generalizing first with
    | nil => rfl
    | cons rule rest ih => simp [List.zipIdx_cons, ih, Function.comp_def]
  exact named rules 0

theorem find?_zipIdx_eq_none_iff (rules : List RestoreRule) (p : RestoreRule → Bool) :
    rules.zipIdx.find? (fun entry => p entry.1) = none ↔ ∀ rule ∈ rules, p rule = false := by
  rw [List.find?_eq_none]
  constructor
  · intro none rule member
    obtain ⟨i, bound, rfl⟩ := List.mem_iff_getElem.mp member
    exact Bool.eq_false_iff.mpr (none (rules[i], i)
      (List.mem_zipIdx_iff_getElem?.mpr (List.getElem?_eq_getElem bound)))
  · rintro none ⟨rule, position⟩ member
    exact Bool.eq_false_iff.mp (none rule (List.fst_mem_of_mem_zipIdx member))

variable (rules) in
/-- At most one rule is for all other hosts, no host is named twice, and no rule asks for snapshots
and for paths. -/
structure IsSound : Prop where
  catchAll : rules.countP (·.targets.isEmpty) ≤ 1
  distinct : (rules.flatMap (·.targets)).Nodup
  exclusive : ∀ rule ∈ rules, rule.snapshots = [] ∨ rule.paths = []

theorem IsSound.perm (sound : IsSound rules) (same : others.Perm rules) : IsSound others where
  catchAll := same.countP_eq _ ▸ sound.catchAll
  distinct := (same.flatMap_right _).nodup_iff.mpr sound.distinct
  exclusive rule member := sound.exclusive rule (same.mem_iff.mp member)

theorem validate_eq_ok_iff {spec : RestoreSessionSpec} :
    spec.validate = .ok () ↔ IsSound spec.rules := by
  have named : firstRepeated [] (claims spec.rules) = none ↔
      (spec.rules.flatMap (·.targets)).Nodup := by
    rw [firstRepeated_eq_none_iff, map_fst_claims]
    simp
  have asked := find?_zipIdx_eq_none_iff spec.rules
    fun r => ! r.snapshots.isEmpty && ! r.paths.isEmpty
  -- The checks are made one after the other, and each fails exactly if its own condition does.
  unfold validate
  simp only [Bind.bind, Except.bind, length_catchAlls]
  split
  · rename_i many
    exact ⟨nofun, fun sound => absurd sound.catchAll (Nat.not_le.mpr many)⟩
  rename_i single
  split
  · rename_i again
    refine ⟨nofun, fun sound => ?_⟩
    rw [named.mpr sound.distinct] at again
    cases again
  rename_i once
  split
  · rename_i both
    refine ⟨nofun, fun sound => ?_⟩
    have apart := asked.mpr fun rule member => by
      simpa [or_iff_not_imp_left] using sound.exclusive rule member
    rw [apart] at both
    cases both
  · rename_i apart
    refine ⟨fun _ => ⟨Nat.not_lt.mp single, named.mp once, fun rule member => ?_⟩, fun _ => rfl⟩
    simpa [or_iff_not_imp_left] using asked.mp apart rule member

theorem find?_eq_some_iff_of_countP_le_one {p : RestoreRule → Bool} (once : rules.countP p ≤ 1)
    (rule : RestoreRule) : rules.find? p = some rule ↔ rule ∈ rules ∧ p rule = true := by
  refine ⟨fun found => ⟨List.mem_of_find?_eq_some found, List.find?_some found⟩, ?_⟩
  rintro ⟨member, matched⟩
  have picked : rule ∈ rules.filter p := List.mem_filter.mpr ⟨member, matched⟩
  rw [List.countP_eq_length_filter] at once
  obtain ⟨only, single⟩ :=
    List.length_eq_one_iff.mp (Nat.le_antisymm once (List.length_pos_of_mem picked))
  rw [single, List.mem_singleton] at picked
  rw [← List.head?_filter, single, picked, List.head?_cons]

theorem countP_contains_le_count (rules : List RestoreRule) (host : String) :
    rules.countP (·.targets.contains host) ≤ (rules.flatMap (·.targets)).count host := by
  induction rules with
  | nil => simp
  | cons rule rest ih =>
    rw [List.countP_cons, List.flatMap_cons, List.count_append]
    split
    · rename_i named
      have here := List.count_pos_iff.mpr (List.contains_iff_mem.mp named)
      omega
    · omega

theorem IsSound.named_once (sound : IsSound rules) (host : String) :
    rules.countP (·.targets.contains host) ≤ 1 :=
  Nat.le_trans (countP_contains_le_count rules host)
    (List.nodup_iff_count_le_one.mp sound.distinct host)

end

section

variable {spec : RestoreSessionSpec} {rule : RestoreRule} {host : String}

theorem ruleFor?_eq_some_iff (sound : IsSound spec.rules) : spec.ruleFor? host = some rule ↔
    rule ∈ spec.rules ∧ (host ∈ rule.targets ∨
      rule.targets = [] ∧ ∀ other ∈ spec.rules, host ∉ other.targets) := by
  have naming (r : RestoreRule) : spec.rules.find? (·.targets.contains host) = some r ↔
      r ∈ spec.rules ∧ host ∈ r.targets := by
    simpa using find?_eq_some_iff_of_countP_le_one (sound.named_once host) r
  have catching (r : RestoreRule) : spec.rules.find? (·.targets.isEmpty) = some r ↔
      r ∈ spec.rules ∧ r.targets = [] := by
    simpa using find?_eq_some_iff_of_countP_le_one sound.catchAll r
  unfold ruleFor?
  split
  · rename_i first found
    obtain ⟨member, names⟩ := (naming first).mp found
    rw [← found, naming]
    exact ⟨fun ⟨listed, named⟩ => ⟨listed, .inl named⟩, fun
      | ⟨listed, .inl named⟩ => ⟨listed, named⟩
      | ⟨_, .inr ⟨_, unnamed⟩⟩ => absurd names (unnamed first member)⟩
  · rename_i absent
    have unnamed : ∀ other ∈ spec.rules, host ∉ other.targets := by
      simpa using List.find?_eq_none.mp absent
    rw [catching]
    exact ⟨fun ⟨listed, all⟩ => ⟨listed, .inr ⟨all, unnamed⟩⟩, fun
      | ⟨listed, .inl named⟩ => absurd named (unnamed rule listed)
      | ⟨listed, .inr ⟨all, _⟩⟩ => ⟨listed, all⟩⟩

theorem ruleFor?_eq_none_iff : spec.ruleFor? host = none ↔
    ∀ rule ∈ spec.rules, host ∉ rule.targets ∧ rule.targets ≠ [] := by
  unfold ruleFor?
  split
  · rename_i first found
    have names : host ∈ first.targets := by simpa using List.find?_some found
    exact ⟨nofun, fun neither => absurd names (neither first (List.mem_of_find?_eq_some found)).1⟩
  · rename_i absent
    have unnamed : ∀ rule ∈ spec.rules, host ∉ rule.targets := by
      simpa using List.find?_eq_none.mp absent
    rw [List.find?_eq_none]
    exact ⟨fun closed rule member => ⟨unnamed rule member, by simpa using closed rule member⟩,
      fun neither rule member => by simpa using (neither rule member).2⟩

/-- The order of the rules does not matter. -/
theorem ruleFor?_perm {rules : List RestoreRule} (sound : IsSound spec.rules)
    (same : rules.Perm spec.rules) : { spec with rules }.ruleFor? host = spec.ruleFor? host := by
  have permuted : IsSound { spec with rules }.rules := sound.perm same
  refine Option.ext fun rule => ?_
  rw [ruleFor?_eq_some_iff permuted, ruleFor?_eq_some_iff sound]
  simp only [same.mem_iff]

end

/-- In a valid session at most one rule names a host and at most one is for all other hosts. The rule
for a host is the one that names it, or else the one for all others, or else there is none; and all
of this is the same for the rules in any other order. -/
theorem ruleFor?_unambiguous (spec : RestoreSessionSpec) (valid : spec.validate = .ok ()) :
    (∀ host, spec.rules.countP (host ∈ ·.targets) ≤ 1) ∧
    spec.rules.countP (·.targets = []) ≤ 1 ∧
    (∀ host rule, spec.ruleFor? host = some rule ↔ rule ∈ spec.rules ∧ (host ∈ rule.targets ∨
      rule.targets = [] ∧ ∀ other ∈ spec.rules, host ∉ other.targets)) ∧
    (∀ host, spec.ruleFor? host = none ↔
      ∀ rule ∈ spec.rules, host ∉ rule.targets ∧ rule.targets ≠ []) ∧
    ∀ rules : List RestoreRule, rules.Perm spec.rules →
      { spec with rules }.validate = .ok () ∧
      ∀ host, { spec with rules }.ruleFor? host = spec.ruleFor? host := by
  have sound := validate_eq_ok_iff.mp valid
  refine ⟨fun host => ?_, ?_, fun _ _ => ruleFor?_eq_some_iff sound,
    fun _ => ruleFor?_eq_none_iff, fun rules same => ⟨?_, fun _ => ruleFor?_perm sound same⟩⟩
  · simpa using sound.named_once host
  · simpa [← List.isEmpty_iff] using sound.catchAll
  · exact validate_eq_ok_iff.mpr (sound.perm same)

/-- The rule for all other hosts stands first, and one rule names two hosts. -/
def mixed : RestoreSessionSpec where
  repository := "statefulset.db"
  rules := [{ paths := ["/shared"] }, { targets := ["db-1"], snapshots := ["abc123"] },
    { targets := ["db-2", "db-0"], paths := ["/data"] }]

theorem ruleFor?_unambiguous_mixed :
    mixed.validate = .ok () ∧
    mixed.ruleFor? "db-0" = some { targets := ["db-2", "db-0"], paths := ["/data"] } ∧
    mixed.ruleFor? "db-7" = some { paths := ["/shared"] } ∧
    { mixed with rules := mixed.rules.reverse }.validate = .ok () ∧
    ∀ host, { mixed with rules := mixed.rules.reverse }.ruleFor? host = mixed.ruleFor? host := by
  obtain ⟨_, _, selects, _, permuted⟩ := ruleFor?_unambiguous mixed rfl
  exact ⟨rfl, (selects _ _).mpr (by decide), (selects _ _).mpr (by decide),
    permuted _ (List.reverse_perm _)⟩

end ClusterBackup.RestoreSessionSpec
