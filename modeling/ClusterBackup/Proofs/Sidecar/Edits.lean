import ClusterBackup.Proofs.Text.Dictionary
import ClusterBackup.Sidecar
import Mathlib.Data.List.Induction

/-! Edits of a workload's template, one after the other: putting the container in for one
configuration or another, and taking it out.

An edit writes its own containers, volumes and annotations over those that an earlier edit
left, and keeps everything else, so of several edits the last one decides. -/

set_option autoImplicit false

namespace ClusterBackup

open Cluster

namespace Cluster.Workload

variable {w : Workload} {pod : PodSpec}

theorem podSpec?_eq_some_iff : w.podSpec? = some pod ↔
    ∃ spec template, w.spec = some spec ∧ spec.template = some template ∧ template.spec = some pod := by
  simp [podSpec?, Option.bind_eq_some_iff]

def rewritten (w : Workload) (pod : PodSpec) (annotations : Option Dictionary) : Workload :=
  { w.withPodSpec pod with metadata := { w.metadata with annotations } }

theorem podSpec?_rewritten (template : w.podSpec? = some pod) (other : PodSpec)
    (annotations : Option Dictionary) : (w.rewritten other annotations).podSpec? = some other := by
  obtain ⟨spec, template, hasSpec, hasTemplate, hasPod⟩ := podSpec?_eq_some_iff.mp template
  simp [podSpec?, rewritten, withPodSpec, hasSpec, hasTemplate, hasPod]

@[simp] theorem annotations_rewritten (w : Workload) (pod : PodSpec) (annotations : Option Dictionary) :
    (w.rewritten pod annotations).metadata.annotations = annotations := rfl

@[simp] theorem rewritten_rewritten (w : Workload) (first second : PodSpec)
    (earlier later : Option Dictionary) :
    (w.rewritten first earlier).rewritten second later = w.rewritten second later := by
  simp [rewritten, withPodSpec, Option.map_map, Function.comp_def]

theorem rewritten_self (template : w.podSpec? = some pod) : w.rewritten pod w.metadata.annotations = w := by
  obtain ⟨kind, metadata, spec, status⟩ := w
  obtain ⟨⟨_, _, _, _, _, _⟩, ⟨_, _⟩, rfl, rfl, rfl⟩ := podSpec?_eq_some_iff.mp template
  rfl

end Cluster.Workload

namespace Sidecar

section
variable {α : Type} {name : α → String} {item : α} {before after : List α}

theorem putBy_append_of_absent (absent : ∀ x ∈ before, name x ≠ name item) :
    putBy name item (before ++ after) = before ++ putBy name item after := by
  induction before with
  | nil => rfl
  | cons x before ih =>
    rw [List.forall_mem_cons] at absent
    simp only [List.cons_append, putBy, if_neg absent.1, ih absent.2]

theorem putBy_of_absent (absent : ∀ x ∈ before, name x ≠ name item) :
    putBy name item before = before ++ [item] := by
  rw [← List.append_nil before, putBy_append_of_absent absent, putBy, List.append_nil]

end

/-- A list of volumes as a template has it: none instead of an empty one. -/
def listed (volumes : List Volume) : Option (List Volume) := (some volumes).filter (! ·.isEmpty)

@[simp] theorem getD_listed (volumes : List Volume) : (listed volumes).getD [] = volumes := by
  cases volumes <;> rfl

theorem withoutVolume_eq (name : String) (volumes : Option (List Volume)) :
    withoutVolume name volumes = listed ((volumes.getD []).filter (·.name != name)) := by
  cases volumes <;> rfl

/-- One change of a workload's template. The container may have been made for another
configuration than the one that becomes its owner. -/
inductive Edit where
  | add (config made : Configuration) (kind : WorkloadKind) (workload : String)
      (options : Options) (tag : String)
  | remove

namespace Edit

def apply (w : Workload) : Edit → Except Failure Workload
  | add config made kind workload options tag =>
    Sidecar.add w config (container made kind workload options) tag
  | remove => Sidecar.remove w

def applyAll (w : Workload) (edits : List Edit) : Except Failure Workload := edits.foldlM apply w

def containers (edit : Edit) (present : List Container) : List Container :=
  match edit with
  | add _ made kind workload options _ =>
    putBy Container.name (container made kind workload options) present
  | remove => present.filter (·.name != containerName)

def volumes (edit : Edit) (present : Option (List Volume)) : Option (List Volume) :=
  match edit with
  | add config .. =>
    withBackendVolume config.spec.backend (withVolume podInfoVolume (withVolume scratchVolume present))
  | remove => withoutVolume backendVolumeName
      (withoutVolume podInfoVolumeName (withoutVolume scratchVolumeName present))

def annotations (edit : Edit) (present : Option Dictionary) : Option Dictionary :=
  match edit with
  | add config _ _ _ _ tag =>
    some (((present.getD .empty).insert ownerAnnotation config.name).insert tagAnnotation tag)
  | remove => (present.map fun a => (a.erase ownerAnnotation).erase tagAnnotation).filter (! ·.isEmpty)

/-- The workload `w`, whose pods are described by `pod`, after an edit. -/
def outcome (edit : Edit) (w : Workload) (pod : PodSpec) : Workload :=
  w.rewritten { pod with
      containers := edit.containers pod.containers, volumes := edit.volumes pod.volumes }
    (edit.annotations w.metadata.annotations)

theorem apply_eq {w : Workload} {pod : PodSpec} (template : w.podSpec? = some pod) (edit : Edit) :
    edit.apply w = .ok (edit.outcome w pod) := by
  cases edit <;> simp only [apply, Sidecar.add, Sidecar.remove, podSpec, template] <;> rfl

theorem podSpec?_outcome {w : Workload} {pod : PodSpec} (template : w.podSpec? = some pod) (edit : Edit) :
    (edit.outcome w pod).podSpec? = some { pod with
      containers := edit.containers pod.containers, volumes := edit.volumes pod.volumes } :=
  Workload.podSpec?_rewritten template _ _

section

variable {edit : Edit} {w edited : Workload} {failure : Failure}

theorem apply_cases (edit : Edit) (w : Workload) :
    (∃ pod, w.podSpec? = some pod ∧ edit.apply w = .ok (edit.outcome w pod)) ∨
      (w.podSpec? = none ∧ edit.apply w = .error (.validation (w.describe ++ " has no pod template"))) := by
  cases template : w.podSpec? with
  | some pod => exact .inl ⟨pod, rfl, apply_eq template edit⟩
  | none =>
    refine .inr ⟨rfl, ?_⟩
    cases edit <;> simp only [apply, Sidecar.add, Sidecar.remove, podSpec, template] <;> rfl

theorem of_apply_ok (applied : edit.apply w = .ok edited) :
    ∃ pod, w.podSpec? = some pod ∧ edited = edit.outcome w pod := by
  rcases edit.apply_cases w with ⟨pod, template, same⟩ | ⟨_, same⟩
  · exact ⟨pod, template, Except.ok.inj (applied.symm.trans same)⟩
  · cases applied.symm.trans same

theorem of_apply_error (failed : edit.apply w = .error failure) :
    failure = .validation (w.describe ++ " has no pod template") := by
  rcases edit.apply_cases w with ⟨_, _, same⟩ | ⟨_, same⟩
  · cases failed.symm.trans same
  · exact Except.error.inj (failed.symm.trans same)

end

/-! The containers. -/

section
variable {others : List Container} (foreign : ∀ c ∈ others, c.name ≠ containerName)
include foreign

theorem containers_add (config made : Configuration) (kind : WorkloadKind) (workload : String)
    (options : Options) (tag : String) :
    (add config made kind workload options tag).containers others =
      others ++ [container made kind workload options] :=
  putBy_of_absent foreign

theorem containers_remove : remove.containers others = others :=
  List.filter_eq_self.mpr fun c member => by simpa using foreign c member

theorem containers_containers (earlier later : Edit) :
    later.containers (earlier.containers others) = later.containers others := by
  cases earlier with
  | remove => rw [containers_remove foreign]
  | add config made kind workload options tag =>
    rw [containers_add foreign]
    cases later with
    | add _ made' kind' workload' options' _ =>
      have same : (container made kind workload options).name =
        (container made' kind' workload' options').name := rfl
      rw [containers_add foreign, containers, putBy_append_of_absent foreign, putBy, if_pos same]
    | remove =>
      have own : (container made kind workload options).name = containerName := rfl
      rw [containers_remove foreign]
      simpa [containers, own] using containers_remove foreign

end

/-! The volumes. -/

def volumeNames : List String := [scratchVolumeName, podInfoVolumeName, backendVolumeName]

def renamed (v : VolumeBackend) : Volume := { v.volume with name := backendVolumeName }

def ownVolumes (mounted : Option VolumeBackend) : List Volume :=
  [scratchVolume, podInfoVolume] ++ (mounted.map renamed).toList

theorem name_mem_of_mem_ownVolumes {mounted : Option VolumeBackend} {v : Volume}
    (member : v ∈ ownVolumes mounted) : v.name ∈ volumeNames := by
  simp only [ownVolumes, List.mem_append, List.mem_cons, List.not_mem_nil, or_false,
    Option.mem_toList, Option.map_eq_some_iff] at member
  obtain (rfl | rfl) | ⟨_, _, rfl⟩ := member <;> simp [volumeNames, scratchVolume, podInfoVolume, renamed]

/-- An edit does not tell an empty list from none. -/
theorem volumes_some_getD (edit : Edit) (present : Option (List Volume)) :
    edit.volumes (some (present.getD [])) = edit.volumes present := by
  cases present <;> cases edit <;> rfl

theorem volumes_remove (present : Option (List Volume)) :
    remove.volumes present = listed ((present.getD []).filter (·.name ∉ volumeNames)) := by
  simp only [volumes, withoutVolume_eq, getD_listed, List.filter_filter]
  congr 2
  funext v
  rw [Bool.eq_iff_iff]
  simp only [volumeNames, List.mem_cons, List.not_mem_nil, Bool.and_eq_true, bne_iff_ne,
    decide_eq_true_eq]
  tauto

section
variable {others : List Volume} (foreign : ∀ v ∈ others, v.name ∉ volumeNames)
include foreign

theorem others_of_foreign : others.filter (·.name ∉ volumeNames) = others :=
  List.filter_eq_self.mpr fun v member => decide_eq_true (foreign v member)

theorem withVolume_append {own : List Volume} {item : Volume} (named : item.name ∈ volumeNames) :
    withVolume item (some (others ++ own)) = some (others ++ putBy Volume.name item own) := by
  rw [withVolume, Option.getD_some, putBy_append_of_absent]
  exact fun v member same => foreign v member (same ▸ named)

theorem withoutVolume_append {own : List Volume} {name : String} (named : name ∈ volumeNames) :
    withoutVolume name (some (others ++ own)) = listed (others ++ own.filter (·.name != name)) := by
  rw [withoutVolume_eq, Option.getD_some, List.filter_append, List.filter_eq_self.mpr]
  intro v member
  exact bne_iff_ne.mpr fun same => foreign v member (same ▸ named)

theorem withBackendVolume_append (backend : Backend) (mounted : Option VolumeBackend) :
    withBackendVolume backend (some (others ++ ownVolumes mounted)) =
      some (others ++ ownVolumes backend.volume) := by
  have named : backendVolumeName ∈ volumeNames := by decide
  cases given : backend.volume with
  | none =>
    have left : (ownVolumes mounted).filter (·.name != backendVolumeName) = ownVolumes none := by
      cases mounted <;> rfl
    simp only [withBackendVolume, given, withoutVolume_append foreign named, left]
    simp [listed, ownVolumes]
  | some v =>
    have put : putBy Volume.name (renamed v) (ownVolumes mounted) = ownVolumes (some v) := by
      cases mounted <;> rfl
    have placed : withBackendVolume backend (some (others ++ ownVolumes mounted)) =
        withVolume (renamed v) (some (others ++ ownVolumes mounted)) := by
      simp only [withBackendVolume, given]
      rfl
    rw [placed, withVolume_append foreign named, put]

theorem volumes_add (config made : Configuration) (kind : WorkloadKind) (workload : String)
    (options : Options) (tag : String) {own : List Volume}
    (placed : own = [] ∨ ∃ mounted, own = ownVolumes mounted) :
    (add config made kind workload options tag).volumes (some (others ++ own)) =
      some (others ++ ownVolumes config.spec.backend.volume) := by
  obtain ⟨mounted, shared⟩ : ∃ mounted,
      putBy Volume.name podInfoVolume (putBy Volume.name scratchVolume own) = ownVolumes mounted := by
    rcases placed with rfl | ⟨mounted, rfl⟩
    · exact ⟨none, rfl⟩
    · exact ⟨mounted, rfl⟩
  rw [volumes, withVolume_append foreign (by decide), withVolume_append foreign (by decide), shared,
    withBackendVolume_append foreign]

theorem volumes_volumes {present : Option (List Volume)} (same : present.getD [] = others)
    (earlier later : Edit) :
    later.volumes (earlier.volumes present) = later.volumes present := by
  rw [← earlier.volumes_some_getD present, ← later.volumes_some_getD present, same]
  cases earlier with
  | remove =>
    rw [volumes_remove, Option.getD_some, others_of_foreign foreign,
      ← later.volumes_some_getD (listed others), getD_listed]
  | add config made kind workload options tag =>
    have first := volumes_add foreign config made kind workload options tag (.inl rfl)
    rw [List.append_nil] at first
    rw [first]
    cases later with
    | remove =>
      have own : (ownVolumes config.spec.backend.volume).filter (·.name ∉ volumeNames) = [] :=
        List.filter_eq_nil_iff.mpr fun v member => by simpa using name_mem_of_mem_ownVolumes member
      simp only [volumes_remove, Option.getD_some, List.filter_append, own, List.append_nil]
    | add config' made' kind' workload' options' tag' =>
      have second := volumes_add foreign config' made' kind' workload' options' tag' (.inl rfl)
      rw [List.append_nil] at second
      rw [volumes_add foreign _ _ _ _ _ _ (.inr ⟨_, rfl⟩), second]

end

/-! The annotations. -/

def unmarked (present : Option Dictionary) : Dictionary :=
  ((present.getD .empty).erase ownerAnnotation).erase tagAnnotation

theorem annotations_add (config made : Configuration) (kind : WorkloadKind) (workload : String)
    (options : Options) (tag : String) (present : Option Dictionary) :
    (add config made kind workload options tag).annotations present =
      some (((unmarked present).insert ownerAnnotation config.name).insert tagAnnotation tag) := by
  refine congrArg some (Dictionary.ext_get? fun key => ?_)
  simp only [unmarked, Dictionary.get?_insert, Dictionary.get?_erase]
  split_ifs <;> rfl

theorem annotations_remove (present : Option Dictionary) :
    remove.annotations present = (some (unmarked present)).filter (! ·.isEmpty) := by
  cases present <;> rfl

theorem get?_remove_annotations {key : String} (own : key = ownerAnnotation ∨ key = tagAnnotation)
    (present : Option Dictionary) : (remove.annotations present).bind (·.get? key) = none := by
  have gone : (unmarked present).get? key = none := by
    rw [unmarked, Dictionary.get?_erase, Dictionary.get?_erase]
    rcases own with rfl | rfl <;> simp
  rw [annotations_remove, Option.filter_some]
  split
  · exact gone
  · rfl

theorem unmarked_annotations (edit : Edit) (present : Option Dictionary) :
    unmarked (edit.annotations present) = unmarked present := by
  cases edit with
  | add config made kind workload options tag =>
    rw [annotations_add]
    refine Dictionary.ext_get? fun key => ?_
    simp only [unmarked, Option.getD_some, Dictionary.get?_insert, Dictionary.get?_erase]
    split_ifs <;> rfl
  | remove =>
    rw [annotations_remove]
    by_cases none : unmarked present = .empty
    · rw [none]
      rfl
    · have kept : (some (unmarked present)).filter (! ·.isEmpty) = some (unmarked present) := by
        rw [Option.filter_some, if_pos]
        simpa using mt Dictionary.isEmpty_iff.mp none
      rw [kept]
      refine Dictionary.ext_get? fun key => ?_
      simp only [unmarked, Option.getD_some, Dictionary.get?_erase]
      split_ifs <;> rfl

theorem annotations_annotations (earlier later : Edit) (present : Option Dictionary) :
    later.annotations (earlier.annotations present) = later.annotations present := by
  cases later <;> simp only [annotations_add, annotations_remove, unmarked_annotations]

end Edit

/-- Nothing in the workload, whose pods are described by `pod`, goes by a name that the
container brings along. -/
structure Foreign (w : Workload) (pod : PodSpec) : Prop where
  template : w.podSpec? = some pod
  containers : ∀ c ∈ pod.containers, c.name ≠ containerName
  volumes : ∀ v ∈ pod.volumes.getD [],
    v.name ≠ scratchVolumeName ∧ v.name ≠ podInfoVolumeName ∧ v.name ≠ backendVolumeName
  owner : w.annotation? ownerAnnotation = none
  tag : w.annotation? tagAnnotation = none

/-- The workload with no list of volumes instead of an empty one, and no annotations instead
of an empty map of them. -/
def tidied (w : Workload) (pod : PodSpec) : Workload :=
  w.rewritten { pod with volumes := pod.volumes.filter (! ·.isEmpty) }
    (w.metadata.annotations.filter (! ·.isEmpty))

namespace Foreign

variable {w : Workload} {pod : PodSpec}

theorem volumes_notMem (foreign : Foreign w pod) : ∀ v ∈ pod.volumes.getD [], v.name ∉ Edit.volumeNames := by
  intro v member
  simpa [Edit.volumeNames] using foreign.volumes v member

/-- What an earlier edit did leaves no trace after a later one. -/
theorem apply_outcome (foreign : Foreign w pod) (earlier later : Edit) :
    later.apply (earlier.outcome w pod) = later.apply w := by
  rw [Edit.apply_eq (Edit.podSpec?_outcome foreign.template earlier), Edit.apply_eq foreign.template]
  simp only [Edit.outcome, Workload.rewritten_rewritten, Workload.annotations_rewritten,
    Edit.containers_containers foreign.containers, Edit.volumes_volumes foreign.volumes_notMem rfl,
    Edit.annotations_annotations]

theorem remove_outcome (foreign : Foreign w pod) : Edit.remove.outcome w pod = tidied w pod := by
  have volumes : Edit.remove.volumes pod.volumes = pod.volumes.filter (! ·.isEmpty) := by
    rw [Edit.volumes_remove, Edit.others_of_foreign foreign.volumes_notMem]
    cases pod.volumes <;> rfl
  have annotations : Edit.remove.annotations w.metadata.annotations =
      w.metadata.annotations.filter (! ·.isEmpty) := by
    rw [Edit.annotations_remove]
    have owner := foreign.owner
    have tag := foreign.tag
    cases given : w.metadata.annotations with
    | none => rfl
    | some a =>
      simp only [Workload.annotation?, given, Option.bind_some] at owner tag
      rw [Edit.unmarked, Option.getD_some, Dictionary.erase_of_absent owner,
        Dictionary.erase_of_absent tag]
  simp only [Edit.outcome, tidied, Edit.containers_remove foreign.containers, volumes, annotations]

theorem applyAll_concat (foreign : Foreign w pod) (edits : List Edit) (last : Edit) :
    Edit.applyAll w (edits ++ [last]) = last.apply w := by
  induction edits using List.reverseRecOn generalizing last with
  | nil => exact bind_pure _
  | append_singleton edits earlier ih =>
    rw [Edit.applyAll, List.foldlM_append, ← Edit.applyAll, ih, Edit.apply_eq foreign.template]
    exact (bind_pure _).trans (foreign.apply_outcome earlier last)

end Foreign

/-- Of edits one after the other the last one decides, and it succeeds; if it takes the
container out, the workload is the original one again. -/
theorem applyAll_eq_last {w : Workload} {pod : PodSpec} (foreign : Foreign w pod) (edits : List Edit)
    (last : Edit) :
    Edit.applyAll w (edits ++ [last]) = last.apply w ∧
      (∃ edited, last.apply w = .ok edited) ∧
      (last = .remove → Edit.applyAll w (edits ++ [last]) = .ok (tidied w pod)) := by
  refine ⟨foreign.applyAll_concat edits last, ⟨_, Edit.apply_eq foreign.template last⟩, ?_⟩
  rintro rfl
  rw [foreign.applyAll_concat, Edit.apply_eq foreign.template, foreign.remove_outcome]

namespace Restored

def pod : PodSpec := { containers := [{ name := "postgres" }], volumes := some [] }

def database : Workload :=
  { kind := .statefulSet
    metadata := Metadata.named "apps" "db"
    spec := some { template := some { spec := some pod } } }

def backedUpTo (backend : Backend) : Edit :=
  let config : Configuration := { metadata := Metadata.named "apps" "daily", spec := { backend } }
  .add config config .statefulSet "db" {} "latest"

theorem foreign : Foreign database pod where
  template := rfl
  containers := by decide
  volumes := fun _ member => absurd member List.not_mem_nil
  owner := rfl
  tag := rfl

end Restored

open Restored in
/-- Onto a volume, then into a bucket, and out again: only the empty list of volumes is gone. -/
theorem applyAll_eq_last_database :
    Edit.applyAll database ([ backedUpTo { volume := some ⟨{ name := "repo" }, "/repo"⟩ },
        backedUpTo { gcs := some ⟨"bucket", ""⟩ } ] ++ [.remove]) =
      .ok (database.withPodSpec { pod with volumes := none }) :=
  (applyAll_eq_last foreign _ .remove).2.2 rfl

end Sidecar

end ClusterBackup
