import ClusterBackup.Proofs.Sidecar.Edits

/-! What an edit leaves behind, whatever the template held before.

The container is there or it is not, as the edit wants it, and the same edit finds everything in its
place and changes nothing any more. -/

set_option autoImplicit false

namespace ClusterBackup.Sidecar

open Cluster

section

variable {α : Type} {name : α → String} {item : α} {items : List α}

variable (name item) in
theorem find?_putBy_self (items : List α) :
    (putBy name item items).find? (name · == name item) = some item := by
  induction items with
  | nil => simp [putBy]
  | cons x rest ih =>
    by_cases same : name x = name item
    · simp [putBy, same]
    · simp [putBy, same, ih]

variable (name) in
theorem find?_putBy_of_ne {other : String} (different : name item ≠ other) (items : List α) :
    (putBy name item items).find? (name · == other) = items.find? (name · == other) := by
  induction items with
  | nil => simp [putBy, different]
  | cons x rest ih =>
    by_cases same : name x = name item
    · simp [putBy, same, different]
    · rw [putBy, if_neg same, List.find?_cons, List.find?_cons, ih]

variable (name) in
theorem putBy_of_find? (found : items.find? (name · == name item) = some item) :
    putBy name item items = items := by
  induction items with
  | nil => simp at found
  | cons x rest ih =>
    by_cases same : name x = name item
    · rw [List.find?_cons_of_pos (by simp [same]), Option.some.injEq] at found
      rw [putBy, if_pos same, found]
    · rw [List.find?_cons_of_neg (by simp [same])] at found
      rw [putBy, if_neg same, ih found]

end

/-- The volume is the first one of its name. -/
def Holds (item : Volume) (volumes : Option (List Volume)) : Prop :=
  (volumes.getD []).find? (·.name == item.name) = some item

section

variable {item other : Volume} {name : String} {volumes : Option (List Volume)}

theorem holds_withVolume (item : Volume) (volumes : Option (List Volume)) :
    Holds item (withVolume item volumes) :=
  find?_putBy_self Volume.name item _

theorem Holds.withVolume (holds : Holds item volumes) (different : other.name ≠ item.name) :
    Holds item (withVolume other volumes) :=
  (find?_putBy_of_ne Volume.name different _).trans holds

theorem Holds.withoutVolume (holds : Holds item volumes) (different : item.name ≠ name) :
    Holds item (withoutVolume name volumes) := by
  rw [Holds, withoutVolume_eq, getD_listed, List.find?_filter]
  refine Eq.trans (congrArg (fun picks => (volumes.getD []).find? picks) (funext fun v => ?_)) holds
  by_cases same : v.name = item.name <;> simp [same, different]

theorem Holds.withVolume_eq (holds : Holds item volumes) : Sidecar.withVolume item volumes = volumes := by
  cases volumes with
  | none => cases holds
  | some volumes => exact congrArg some (putBy_of_find? Volume.name holds)

theorem withoutVolume_withoutVolume (name : String) (volumes : Option (List Volume)) :
    withoutVolume name (withoutVolume name volumes) = withoutVolume name volumes := by
  rw [withoutVolume_eq, withoutVolume_eq, getD_listed, List.filter_filter]
  simp

theorem withBackendVolume_withBackendVolume (backend : Backend) (volumes : Option (List Volume)) :
    withBackendVolume backend (withBackendVolume backend volumes) = withBackendVolume backend volumes := by
  cases given : backend.volume with
  | none => simp only [withBackendVolume, given, withoutVolume_withoutVolume]
  | some v =>
    simp only [withBackendVolume, given]
    exact (holds_withVolume _ _).withVolume_eq

theorem Holds.withBackendVolume {backend : Backend} (holds : Holds item volumes)
    (different : item.name ≠ backendVolumeName) : Holds item (withBackendVolume backend volumes) := by
  cases given : backend.volume with
  | none =>
    simp only [Sidecar.withBackendVolume, given]
    exact holds.withoutVolume different
  | some v =>
    simp only [Sidecar.withBackendVolume, given]
    exact holds.withVolume different.symm

end

namespace Edit

/-- Whether an edit puts the container in or takes it out. -/
def adds : Edit → Bool
  | add .. => true
  | remove => false

theorem isIn_outcome {w : Workload} {pod : PodSpec} (template : w.podSpec? = some pod) (edit : Edit) :
    (edit.outcome w pod).podSpec?.any Sidecar.isIn = edit.adds := by
  rw [podSpec?_outcome template, Option.any_some, isIn]
  cases edit with
  | add config made kind workload options tag =>
    have placed : (putBy Container.name (container made kind workload options) pod.containers).find?
        (·.name == containerName) = some (container made kind workload options) :=
      find?_putBy_self Container.name (container made kind workload options) pod.containers
    exact List.any_eq_true.mpr ⟨_, List.mem_of_find?_eq_some placed, rfl⟩
  | remove =>
    refine List.any_eq_false.mpr fun c member => ?_
    simpa using (List.mem_filter.mp member).2

theorem containers_twice (edit : Edit) (present : List Container) :
    edit.containers (edit.containers present) = edit.containers present := by
  cases edit with
  | add config made kind workload options tag =>
    exact putBy_of_find? Container.name (find?_putBy_self Container.name _ present)
  | remove => simp [containers]

theorem volumes_twice (edit : Edit) (present : Option (List Volume)) :
    edit.volumes (edit.volumes present) = edit.volumes present := by
  cases edit with
  | add config made kind workload options tag =>
    have scratch : Holds scratchVolume (withBackendVolume config.spec.backend
        (withVolume podInfoVolume (withVolume scratchVolume present))) :=
      ((holds_withVolume _ _).withVolume (by decide)).withBackendVolume (by decide)
    have podInfo : Holds podInfoVolume (withBackendVolume config.spec.backend
        (withVolume podInfoVolume (withVolume scratchVolume present))) :=
      (holds_withVolume _ _).withBackendVolume (by decide)
    simp only [volumes]
    rw [scratch.withVolume_eq, podInfo.withVolume_eq, withBackendVolume_withBackendVolume]
  | remove => simp only [volumes_remove, getD_listed, List.filter_filter, Bool.and_self]

/-- An edit of what it has made itself changes nothing. -/
theorem apply_of_apply {edit : Edit} {w edited : Workload} (applied : edit.apply w = .ok edited) :
    edit.apply edited = .ok edited := by
  obtain ⟨pod, template, rfl⟩ := of_apply_ok applied
  rw [apply_eq (podSpec?_outcome template edit)]
  simp only [outcome, Workload.rewritten_rewritten, Workload.annotations_rewritten, containers_twice,
    volumes_twice, annotations_annotations]

end Edit

end ClusterBackup.Sidecar
