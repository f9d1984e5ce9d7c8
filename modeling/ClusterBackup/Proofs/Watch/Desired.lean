import ClusterBackup.Proofs.Selector.Matching
import ClusterBackup.Watch.Trigger
import Mathlib.Data.List.Nodup

/-! Which configuration a workload is backed up by.

Names are told apart within a namespace only, and the configurations of other namespaces are never
looked at. There the choice is the least of an order, so it is the same in whatever order the
configurations come. -/

set_option autoImplicit false

namespace ClusterBackup

open Cluster

namespace Configuration

variable {configs : List Configuration} {c : Configuration} {w : Workload}

/-- The smallest name among the configurations of a list that are candidates. -/
def IsLeast (configs : List Configuration) (candidate : Configuration → Prop) (c : Configuration) :
    Prop :=
  (c ∈ configs ∧ candidate c) ∧ ∀ d ∈ configs, candidate d → c.name ≤ d.name

/-- The configuration is of the workload's namespace and has the workload as its target. -/
def Names (w : Workload) (c : Configuration) : Prop :=
  c.metadata.nameSpace = some w.nameSpace ∧
    ∃ t, c.spec.target = some t ∧ t.name = w.name ∧ WorkloadKind.parse t.kind = .ok w.kind

/-- The configuration is of the workload's namespace, has no target, and a valid selector of it matches
the workload's labels. -/
def Selects (w : Workload) (c : Configuration) : Prop :=
  c.metadata.nameSpace = some w.nameSpace ∧ c.spec.target = none ∧
    ∃ s, c.spec.selector = some s ∧ s.IsValid ∧ s.Matches w.labels

theorem isIn_iff (nameSpace : String) :
    c.isIn nameSpace = true ↔ c.metadata.nameSpace = some nameSpace := by
  simp [isIn]

theorem targets_iff :
    c.targets w.kind w.name = true ↔
      ∃ t, c.spec.target = some t ∧ t.name = w.name ∧ WorkloadKind.parse t.kind = .ok w.kind := by
  unfold targets
  cases c.spec.target with
  | none => simp
  | some t => cases known : WorkloadKind.parse t.kind <;> simp [known]

theorem picks_iff (labels : Dictionary) :
    c.picks labels = true ↔ ∃ s, c.spec.selector = some s ∧ s.IsValid ∧ s.Matches labels := by
  unfold picks
  cases c.spec.selector with
  | none => simp
  | some s =>
    have matching : s.IsValid ∧ s.Matches labels ↔ s.picks labels = .ok true :=
      (and_iff_right_of_imp LabelSelector.Matches.valid).trans LabelSelector.picks_eq_true_iff.symm
    cases answer : s.picks labels <;> simp [matching, answer]

/-! ### The least of a list -/

theorem leastNamed_eq_none_iff : leastNamed configs = none ↔ configs = [] := by
  cases configs with
  | nil => simp [leastNamed]
  | cons c rest =>
    simp only [leastNamed]
    cases leastNamed rest with
    | none => simp
    | some least => simp only [reduceCtorEq, iff_false]; split <;> simp

theorem mem_of_leastNamed (chosen : leastNamed configs = some c) : c ∈ configs := by
  induction configs with
  | nil => cases chosen
  | cons d rest ih =>
    simp only [leastNamed] at chosen
    cases least : leastNamed rest with
    | none =>
      rw [least] at chosen
      exact Option.some.inj chosen ▸ List.mem_cons_self
    | some other =>
      simp only [least] at chosen
      split at chosen
      · exact Option.some.inj chosen ▸ List.mem_cons_self
      · exact List.mem_cons_of_mem _ (ih (least.trans chosen))

theorem leastNamed_le (chosen : leastNamed configs = some c) : ∀ d ∈ configs, c.name ≤ d.name := by
  induction configs generalizing c with
  | nil => cases chosen
  | cons first rest ih =>
    rw [List.forall_mem_cons]
    cases least : leastNamed rest with
    | none =>
      simp only [leastNamed, least] at chosen
      rw [leastNamed_eq_none_iff.mp least, Option.some.inj chosen]
      exact ⟨String.le_refl _, fun d listed => absurd listed List.not_mem_nil⟩
    | some other =>
      simp only [leastNamed, least] at chosen
      split at chosen
      · rename_i below
        rw [Option.some.inj chosen] at below ⊢
        exact ⟨String.le_refl _, fun d listed => String.le_trans below (ih least d listed)⟩
      · rename_i above
        rw [Option.some.inj chosen] at least above
        exact ⟨(String.le_total _ _).resolve_left above, ih least⟩

theorem eq_of_name (distinct : (configs.map (·.name)).Nodup) {d : Configuration} (left : c ∈ configs)
    (right : d ∈ configs) (same : c.name = d.name) : c = d :=
  List.inj_on_of_nodup_map distinct left right same

theorem leastNamed_eq_some_iff (distinct : (configs.map (·.name)).Nodup) :
    leastNamed configs = some c ↔ c ∈ configs ∧ ∀ d ∈ configs, c.name ≤ d.name := by
  refine ⟨fun chosen => ⟨mem_of_leastNamed chosen, leastNamed_le chosen⟩, fun ⟨listed, least⟩ => ?_⟩
  cases chosen : leastNamed configs with
  | none => exact absurd (leastNamed_eq_none_iff.mp chosen ▸ listed) List.not_mem_nil
  | some other =>
    -- Each of the two names is at most the other one.
    have member := mem_of_leastNamed chosen
    have same := String.le_antisymm (leastNamed_le chosen c listed) (least other member)
    exact congrArg some (eq_of_name distinct member listed same)

theorem leastNamed_filter_iff (distinct : (configs.map (·.name)).Nodup) (p : Configuration → Bool) :
    leastNamed (configs.filter p) = some c ↔ IsLeast configs (p · = true) c := by
  have sub := (List.filter_sublist (p := p)).map (·.name) |>.nodup distinct
  rw [leastNamed_eq_some_iff sub, IsLeast, List.mem_filter]
  exact and_congr_right fun _ => by simp only [List.mem_filter, and_imp]

theorem leastNamed_filter_eq_none_iff (p : Configuration → Bool) :
    leastNamed (configs.filter p) = none ↔ ∀ d ∈ configs, ¬ p d = true := by
  rw [leastNamed_eq_none_iff, List.filter_eq_nil_iff]

theorem find?_name (distinct : (configs.map (·.name)).Nodup) (listed : c ∈ configs) :
    configs.find? (·.name == c.name) = some c := by
  cases found : configs.find? (·.name == c.name) with
  | none => exact absurd (List.find?_eq_none.mp found c listed) (by simp)
  | some other =>
    have same : other.name = c.name := by simpa using List.find?_some found
    exact congrArg some (eq_of_name distinct (List.mem_of_find?_eq_some found) listed same)

/-! ### Those near the workload -/

def near (w : Workload) (configs : List Configuration) : List Configuration :=
  configs.filter (isIn w.nameSpace)

theorem mem_near : c ∈ near w configs ↔ c ∈ configs ∧ c.metadata.nameSpace = some w.nameSpace := by
  rw [near, List.mem_filter, isIn_iff]

/-- Within one namespace names alone tell configurations apart. -/
theorem nodup_near (distinct : (configs.map fun c => (c.metadata.nameSpace, c.name)).Nodup)
    (w : Workload) : ((near w configs).map (·.name)).Nodup := by
  have apart := (List.filter_sublist (p := isIn w.nameSpace)).map
    (fun c => (c.metadata.nameSpace, c.name)) |>.nodup distinct
  have pairs : (near w configs).map (fun c => (c.metadata.nameSpace, c.name)) =
      ((near w configs).map (·.name)).map (Prod.mk (some w.nameSpace)) := by
    rw [List.map_map]
    exact List.map_congr_left fun c listed => congrArg (·, c.name) (mem_near.mp listed).2
  exact List.Nodup.of_map _ (pairs ▸ apart)

theorem isLeast_near_iff {p : Configuration → Bool} {candidate : Configuration → Prop}
    (same : ∀ d, candidate d ↔ d.metadata.nameSpace = some w.nameSpace ∧ p d = true) :
    IsLeast (near w configs) (p · = true) c ↔ IsLeast configs candidate c := by
  simp only [IsLeast, mem_near, same, and_imp, and_assoc]

theorem none_near_iff {p : Configuration → Bool} {candidate : Configuration → Prop}
    (same : ∀ d, candidate d ↔ d.metadata.nameSpace = some w.nameSpace ∧ p d = true) :
    (∀ d ∈ near w configs, ¬ p d = true) ↔ ∀ d ∈ configs, ¬ candidate d := by
  simp only [mem_near, same, and_imp, not_and]

theorem names_iff (d : Configuration) :
    Names w d ↔ d.metadata.nameSpace = some w.nameSpace ∧ d.targets w.kind w.name = true := by
  rw [Names, targets_iff]

def isPicked (w : Workload) (c : Configuration) : Bool := c.spec.target.isNone && c.picks w.labels

theorem selects_iff (d : Configuration) :
    Selects w d ↔ d.metadata.nameSpace = some w.nameSpace ∧ isPicked w d = true := by
  rw [Selects, isPicked, Bool.and_eq_true, picks_iff, Option.isNone_iff_eq_none]

end Configuration

open ClusterBackup.Configuration

section

variable {w : Workload} {configs : List Configuration} {c : Configuration}

theorem desired?_eq (distinct : ((near w configs).map (·.name)).Nodup) :
    desired? w configs =
      (leastNamed ((near w configs).filter (·.targets w.kind w.name))).or
        (leastNamed ((near w configs).filter (isPicked w))) := by
  simp only [desired?]
  rw [← near]
  cases leastNamed ((near w configs).filter (·.targets w.kind w.name)) with
  | some named => rfl
  | none =>
    have picked : Configuration.find? ((near w configs).filter (·.spec.target.isNone)) w.labels =
        leastNamed ((near w configs).filter (isPicked w)) := by
      rw [Configuration.find?, List.filter_filter]
      exact congrArg leastNamed (List.filter_congr fun c _ => Bool.and_comm _ _)
    rw [Option.none_or, picked]
    -- The choice is made again by its name, which no other configuration of the namespace has.
    cases chosen : leastNamed ((near w configs).filter (isPicked w)) with
    | none => rfl
    | some c =>
      exact find?_name distinct (List.mem_of_mem_filter (mem_of_leastNamed chosen))

theorem desired?_eq_some_iff (distinct : ((near w configs).map (·.name)).Nodup) :
    desired? w configs = some c ↔ IsLeast configs (Names w) c ∨
      (∀ d ∈ configs, ¬ Names w d) ∧ IsLeast configs (Selects w) c := by
  rw [desired?_eq distinct, Option.or_eq_some_iff, leastNamed_filter_iff distinct,
    leastNamed_filter_iff distinct, leastNamed_filter_eq_none_iff, isLeast_near_iff names_iff,
    isLeast_near_iff selects_iff, none_near_iff names_iff]

theorem desired?_eq_none_iff (distinct : ((near w configs).map (·.name)).Nodup) :
    desired? w configs = none ↔ ∀ d ∈ configs, ¬ Names w d ∧ ¬ Selects w d := by
  rw [desired?_eq distinct, Option.or_eq_none_iff, leastNamed_filter_eq_none_iff,
    leastNamed_filter_eq_none_iff, none_near_iff names_iff, none_near_iff selects_iff]
  exact ⟨fun ⟨unnamed, unpicked⟩ d listed => ⟨unnamed d listed, unpicked d listed⟩,
    fun neither => ⟨fun d listed => (neither d listed).1, fun d listed => (neither d listed).2⟩⟩

theorem desired?_congr {others : List Configuration}
    (distinct : ((near w configs).map (·.name)).Nodup)
    (same : (near w others).Perm (near w configs)) : desired? w others = desired? w configs := by
  have apart := (same.map (·.name)).nodup_iff.mpr distinct
  have swapped (p : Configuration → Bool) :
      leastNamed ((near w others).filter p) = leastNamed ((near w configs).filter p) := by
    refine Option.ext fun c => ?_
    rw [leastNamed_filter_iff apart, leastNamed_filter_iff distinct]
    simp only [Configuration.IsLeast, same.mem_iff]
  rw [desired?_eq apart, desired?_eq distinct, swapped, swapped]

/-- A workload is backed up by the configuration of the smallest name among those that name it, or else
among those without a target that select it, or else by none. So neither the order of the
configurations nor those of other namespaces change it. -/
theorem desired?_least (w : Workload) (configs : List Configuration)
    (distinct : (configs.map fun c => (c.metadata.nameSpace, c.name)).Nodup) :
    (∀ c, desired? w configs = some c ↔ IsLeast configs (Names w) c ∨
      (∀ d ∈ configs, ¬ Names w d) ∧ IsLeast configs (Selects w) c) ∧
    (desired? w configs = none ↔ ∀ d ∈ configs, ¬ Names w d ∧ ¬ Selects w d) ∧
    (∀ others, others.Perm configs → desired? w others = desired? w configs) ∧
    ∀ others, (others.filter (isIn w.nameSpace)).Perm (configs.filter (isIn w.nameSpace)) →
      desired? w others = desired? w configs := by
  have apart := nodup_near distinct w
  exact ⟨fun c => desired?_eq_some_iff apart, desired?_eq_none_iff apart,
    fun others same => desired?_congr apart (same.filter _),
    fun others same => desired?_congr apart same⟩

end

namespace Shared

def labelled : Dictionary := Dictionary.empty.insert "app" "api"

/-- A deployment that two configurations of its namespace want. -/
def api : Workload :=
  { kind := .deployment, metadata := { Metadata.named "apps" "api" with labels := some labelled } }

def selecting (nameSpace name : String) : Configuration :=
  { metadata := Metadata.named nameSpace name
    spec := { backend := {}, selector := some { labels := some labelled } } }

def targeting (nameSpace name : String) : Configuration :=
  { metadata := Metadata.named nameSpace name
    spec := { backend := {}, target := some { kind := "Deploy", name := "api" } } }

def wanting : List Configuration :=
  [selecting "apps" "daily", targeting "apps" "weekly", targeting "apps" "monthly",
    targeting "test" "hourly"]

end Shared

open Shared in
/-- The one that selects has a smaller name, and one of another namespace has the smallest. -/
theorem desired?_least_shared :
    (wanting.map fun c => (c.metadata.nameSpace, c.name)).Nodup ∧
    desired? api wanting = some (targeting "apps" "monthly") ∧
    IsLeast wanting (Names api) (targeting "apps" "monthly") ∧
    desired? api wanting.reverse = some (targeting "apps" "monthly") := by
  have distinct : (wanting.map fun c => (c.metadata.nameSpace, c.name)).Nodup := by decide
  have desired : desired? api wanting = some (targeting "apps" "monthly") := rfl
  have all := desired?_least api wanting distinct
  refine ⟨distinct, desired, ?_, (all.2.2.1 _ (List.reverse_perm _)).trans desired⟩
  rcases (all.1 _).mp desired with least | ⟨_, ⟨_, _, untargeted, _⟩, _⟩
  · exact least
  · cases untargeted

end ClusterBackup
