import ClusterBackup.Proofs.Sidecar.Repeated

/-! What edits of a template leave alone.

Nothing is asked of the template here: it may use the names of the container, its volumes and its
annotations already, and each of them more than once. An edit may then replace or drop what goes by
these names, and has no say in anything else. -/

set_option autoImplicit false

namespace ClusterBackup.Sidecar

open Cluster

section

variable {α : Type} {name : α → String} {item : α} {p : α → Bool}

theorem filter_putBy (dropped : ∀ x, name x = name item → p x = false) (items : List α) :
    (putBy name item items).filter p = items.filter p := by
  induction items with
  | nil => simp [putBy, dropped item rfl]
  | cons x rest ih =>
    by_cases same : name x = name item
    · simp [putBy, same, dropped item rfl, dropped x same]
    · rw [putBy, if_neg same, List.filter_cons, List.filter_cons, ih]

end

def otherContainers (containers : List Container) : List Container :=
  containers.filter (·.name != containerName)

/-- The volumes that go by other names, in their order. No list is like an empty one. -/
def otherVolumes (volumes : Option (List Volume)) : List Volume :=
  (volumes.getD []).filter (·.name ∉ Edit.volumeNames)

/-- All of a workload but what goes by a name that the container brings along, with a list of volumes
and a map of annotations in any case. -/
def rest (w : Workload) : Workload :=
  match w.podSpec? with
  | none => w
  | some pod => w.rewritten { pod with
        containers := otherContainers pod.containers, volumes := some (otherVolumes pod.volumes) }
      (some (Edit.unmarked w.metadata.annotations))

theorem rest_eq {w : Workload} {pod : PodSpec} (template : w.podSpec? = some pod) :
    rest w = w.rewritten { pod with
        containers := otherContainers pod.containers, volumes := some (otherVolumes pod.volumes) }
      (some (Edit.unmarked w.metadata.annotations)) := by
  simp only [rest, template]

section

variable {item : Volume} {name : String}

theorem otherVolumes_withVolume (own : item.name ∈ Edit.volumeNames) (volumes : Option (List Volume)) :
    otherVolumes (withVolume item volumes) = otherVolumes volumes := by
  refine filter_putBy (fun v same => ?_) _
  rw [same]
  exact decide_eq_false (not_not.mpr own)

theorem otherVolumes_withoutVolume (own : name ∈ Edit.volumeNames) (volumes : Option (List Volume)) :
    otherVolumes (withoutVolume name volumes) = otherVolumes volumes := by
  rw [otherVolumes, withoutVolume_eq, getD_listed, List.filter_filter]
  refine List.filter_congr fun v _ => ?_
  by_cases same : v.name = name <;> simp [same, own]

theorem otherVolumes_withBackendVolume (backend : Backend) (volumes : Option (List Volume)) :
    otherVolumes (withBackendVolume backend volumes) = otherVolumes volumes := by
  have own : backendVolumeName ∈ Edit.volumeNames := by decide
  cases given : backend.volume with
  | none =>
    simp only [withBackendVolume, given]
    exact otherVolumes_withoutVolume own volumes
  | some v =>
    simp only [withBackendVolume, given]
    exact otherVolumes_withVolume own volumes

end

namespace Edit

theorem otherContainers_containers (edit : Edit) (present : List Container) :
    otherContainers (edit.containers present) = otherContainers present := by
  cases edit with
  | add config made kind workload options tag =>
    exact filter_putBy (fun c same => by rw [same]; rfl) present
  | remove => exact (List.filter_filter ..).trans (by simp only [Bool.and_self]; rfl)

theorem otherVolumes_volumes (edit : Edit) (present : Option (List Volume)) :
    otherVolumes (edit.volumes present) = otherVolumes present := by
  cases edit with
  | add config made kind workload options tag =>
    rw [volumes, otherVolumes_withBackendVolume, otherVolumes_withVolume (by decide),
      otherVolumes_withVolume (by decide)]
  | remove =>
    rw [volumes, otherVolumes_withoutVolume (by decide), otherVolumes_withoutVolume (by decide),
      otherVolumes_withoutVolume (by decide)]

section

variable {w : Workload} {pod : PodSpec}

theorem rest_outcome (template : w.podSpec? = some pod) (edit : Edit) :
    rest (edit.outcome w pod) = rest w := by
  rw [rest_eq template, rest_eq (podSpec?_outcome template edit)]
  simp only [outcome, Workload.rewritten_rewritten, Workload.annotations_rewritten,
    otherContainers_containers, otherVolumes_volumes, unmarked_annotations]

/-- Taken out, the container is gone without a trace of the edits before. -/
theorem remove_of_outcome (template : w.podSpec? = some pod) (edit : Edit) :
    remove.apply (edit.outcome w pod) = remove.apply w := by
  have containers : remove.containers (edit.containers pod.containers) =
      remove.containers pod.containers := edit.otherContainers_containers pod.containers
  have volumes : remove.volumes (edit.volumes pod.volumes) = remove.volumes pod.volumes := by
    rw [volumes_remove, volumes_remove]
    exact congrArg listed (edit.otherVolumes_volumes pod.volumes)
  rw [apply_eq (podSpec?_outcome template edit), apply_eq template]
  simp only [outcome, Workload.rewritten_rewritten, Workload.annotations_rewritten, containers, volumes,
    annotations_annotations]

theorem foreign_remove (template : w.podSpec? = some pod) : Foreign (remove.outcome w pod) { pod with
    containers := remove.containers pod.containers, volumes := remove.volumes pod.volumes } where
  template := podSpec?_outcome template remove
  containers c listed := by simpa using (List.mem_filter.mp listed).2
  volumes v listed := by
    rw [volumes_remove, getD_listed] at listed
    simpa [volumeNames] using (List.mem_filter.mp listed).2
  owner := get?_remove_annotations (.inl rfl) _
  tag := get?_remove_annotations (.inr rfl) _

end

def inPod (change : PodSpec → PodSpec) (w : Workload) : Except Failure Workload := do
  return w.withPodSpec (change (← podSpec w))

def onContainers (change : List Container → List Container) : Workload → Except Failure Workload :=
  inPod fun pod => { pod with containers := change pod.containers }

def onVolumes (change : Option (List Volume) → Option (List Volume)) :
    Workload → Except Failure Workload :=
  inPod fun pod => { pod with volumes := change pod.volumes }

def parts (edit : Edit) : List (Workload → Except Failure Workload) :=
  match edit with
  | add config .. =>
    [ onContainers edit.containers, onVolumes (withVolume scratchVolume),
      onVolumes (withVolume podInfoVolume), onVolumes (withBackendVolume config.spec.backend),
      annotate ]
  | remove =>
    [ onContainers edit.containers, onVolumes (withoutVolume scratchVolumeName),
      onVolumes (withoutVolume podInfoVolumeName), onVolumes (withoutVolume backendVolumeName),
      annotate ]
where
  annotate (w : Workload) : Except Failure Workload :=
    .ok { w with metadata := { w.metadata with annotations := edit.annotations w.metadata.annotations } }

/-- What is left of a workload by parts that are done one after the other in its place, up to the
first that fails. -/
def leftBy : List (Workload → Except Failure Workload) → Workload → Workload
  | [], w => w
  | part :: rest, w => match part w with
    | .ok next => leftBy rest next
    | .error _ => w

def left (edit : Edit) (w : Workload) : Workload := leftBy edit.parts w

section

variable {w : Workload} {pod : PodSpec} {change : PodSpec → PodSpec}
  {rest : List (Workload → Except Failure Workload)}

theorem leftBy_inPod (template : w.podSpec? = some pod) (other : PodSpec)
    (annotations : Option Dictionary) :
    leftBy (inPod change :: rest) (w.rewritten other annotations) =
      leftBy rest (w.rewritten (change other) annotations) := by
  rw [leftBy, inPod, podSpec, Workload.podSpec?_rewritten template]
  exact congrArg (leftBy rest) (Workload.rewritten_rewritten w other (change other) annotations _)

theorem left_outcome (template : w.podSpec? = some pod) (edit : Edit) :
    edit.left w = edit.outcome w pod := by
  have parted : leftBy edit.parts (w.rewritten pod w.metadata.annotations) = edit.outcome w pod := by
    cases edit <;>
      simp only [parts, onContainers, onVolumes, leftBy_inPod template] <;>
      rfl
  rwa [Workload.rewritten_self template] at parted

/-- The first part of an edit fails before anything is changed. -/
theorem left_untemplated (untemplated : w.podSpec? = none) (edit : Edit) : edit.left w = w := by
  cases edit <;> simp only [left, parts, leftBy, onContainers, inPod, podSpec, untemplated] <;> rfl

end

end Edit

/-- With a template, an edit succeeds, done in place too, and keeps all that goes by other names,
whatever is there by the names of the container. The same edit changes nothing any more; with the container taken out after
it the workload is as with the container taken out at once, and nothing goes by its names. Without
a template an edit fails and changes nothing. -/
theorem keeps_rest (w : Workload) (edit : Edit) :
    (∀ pod, w.podSpec? = some pod → ∃ edited, edit.apply w = .ok edited ∧
      edit.left w = edited ∧ rest edited = rest w ∧
      edited.podSpec?.any isIn = edit.adds ∧
      edit.apply edited = .ok edited ∧
      Edit.remove.apply edited = Edit.remove.apply w ∧
      (edit = .remove → ∃ bare, Foreign edited bare)) ∧
    (w.podSpec? = none →
      edit.apply w = .error (.validation (w.describe ++ " has no pod template")) ∧
      edit.left w = w) := by
  constructor
  · intro pod template
    have applied := Edit.apply_eq template edit
    refine ⟨_, applied, Edit.left_outcome template edit, Edit.rest_outcome template edit, Edit.isIn_outcome template edit,
      Edit.apply_of_apply applied, Edit.remove_of_outcome template edit, ?_⟩
    rintro rfl
    exact ⟨_, Edit.foreign_remove template⟩
  · intro untemplated
    rcases edit.apply_cases w with ⟨pod, template, _⟩ | ⟨_, refused⟩
    · cases untemplated.symm.trans template
    · exact ⟨refused, Edit.left_untemplated untemplated edit⟩

namespace Crowded

/-- Two containers with the name of the one that is put in, and volumes of its names, before and after
other ones. -/
def pod : PodSpec :=
  { containers := [{ name := "init" }, { name := "stash", image := some "old" }, { name := "postgres" },
      { name := "stash" }]
    volumes := some [{ name := "stash-local" }, { name := "data" }, { name := "stash-podinfo" },
      { name := "stash-local" }] }

def database : Workload :=
  { kind := .statefulSet
    metadata := { Metadata.named "apps" "db" with
      annotations := some (.ofList [("stash.dev/config", "weekly"), ("team", "storage")]) }
    spec := some { template := some { spec := some pod } } }

def daily : Edit :=
  let config : Configuration := { metadata := Metadata.named "apps" "daily", spec := { backend := {} } }
  .add config config .statefulSet "db" {} "latest"

def bare : Workload := { kind := .replicaSet, metadata := Metadata.named "apps" "web" }

end Crowded

open Crowded in
/-- Only the first of the two containers is replaced, and taking it out takes out both. -/
theorem keeps_rest_crowded :
    (∃ edited, daily.apply database = .ok edited ∧ rest edited = rest database ∧
      edited.podSpec?.map (·.containers.map (·.name)) = some ["init", "stash", "postgres", "stash"] ∧
      edited.podSpec?.map (·.volumes.map (·.map (·.name))) =
        some (some ["data", "stash-podinfo", "stash-scratchdir"]) ∧
      Edit.remove.apply edited = Edit.remove.apply database) ∧
    (∃ edited, Edit.remove.apply database = .ok edited ∧ rest edited = rest database ∧
      ∃ pod, Foreign edited pod) ∧
    daily.left bare = bare := by
  have template : database.podSpec? = some pod := rfl
  obtain ⟨added, applied, _, same, _, _, removed, _⟩ := (keeps_rest database daily).1 pod template
  obtain ⟨stripped, undone, _, kept, _, _, _, foreign⟩ := (keeps_rest database .remove).1 pod template
  have made : added = daily.outcome database pod :=
    Except.ok.inj (applied.symm.trans (Edit.apply_eq template daily))
  refine ⟨⟨added, applied, same, ?_, ?_, removed⟩, ⟨stripped, undone, kept, foreign rfl⟩, ?_⟩
  · rw [made]
    rfl
  · rw [made]
    rfl
  · exact ((keeps_rest bare daily).2 rfl).2

end ClusterBackup.Sidecar
