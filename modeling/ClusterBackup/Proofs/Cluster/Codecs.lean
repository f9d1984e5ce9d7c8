import ClusterBackup.Cluster.LabelSelector
import ClusterBackup.Cluster.Pod
import ClusterBackup.Proofs.Json.Carried
import ClusterBackup.Proofs.Text.Dictionary
import ClusterBackup.Resource.Configuration

/-! The codecs of what resources have in them of other kinds: points in time, label selectors,
volumes and where they are mounted. -/

set_option autoImplicit false

namespace ClusterBackup

open Json

/-- Instants that have a date are read back. -/
@[simps! -fullyApplied read write Holds]
def Instant.codec : Codec Instant where
  read := ofJson?
  write := toJson
  Holds := IsProper
  back := by
    intro t proper
    rw [toJson, ofJson?, text?, Option.bind_some, parse_text proper]
  holds := by
    intro j t read
    obtain ⟨s, _, parsed⟩ := Option.bind_eq_some_iff.mp read
    exact isProper_of_parse parsed
  solid _ := nofun

@[simps! -fullyApplied read write Holds]
def Dictionary.codec : Codec Dictionary where
  read := ofJson?
  write := toJson
  Holds _ := True
  back := by
    intro d _
    have entries : (d.entries.map fun entry => (entry.1, Json.string entry.2)).mapM
        (fun (key, value) => do return (key, ← value.text?)) = some d.entries := by
      induction d.entries with
      | nil => rfl
      | cons entry rest ih =>
        rw [List.map_cons, List.mapM_cons, ih]
        rfl
    rw [toJson, ofJson?, members?, Option.bind_eq_bind, Option.bind_some, entries]
    exact congrArg some (ofList_entries d)
  holds _ := trivial
  solid _ := nofun

namespace Cluster

/-! ### Label selectors -/

@[simps! -fullyApplied read write Holds]
def Requirement.codec : Codec Requirement :=
  ((Part.lenient "key" "" .text (Codec.text_holds _)).both <| (Part.lenient "operator" "" .text (Codec.text_holds _)).both <|
    .optional "values" (.list .text)).iso
    (fun (key, operator, values) => { key, operator, values })
    (fun r => (r.key, r.operator, r.values)) (fun _ => rfl) (fun _ => rfl)
  |>.object (by decide) |>.as ofJson? toJson (fun _ => True)
    (by simp [ofJson?, Option.bind_assoc])
    (fun _ => rfl)
    (by simp)

/-- The members are written in another order than they are read. -/
@[simps! -fullyApplied read write Holds]
def LabelSelector.codec : Codec LabelSelector :=
  ((Part.optional "matchExpressions" (.list Requirement.codec)).both <|
    .optional "matchLabels" Dictionary.codec).iso
    (fun (requirements, labels) => { labels, requirements })
    (fun s => (s.requirements, s.labels)) (fun _ => rfl) (fun _ => rfl)
  |>.object (by decide) |>.as ofJson? toJson (fun _ => True)
    (by
      intro j
      simp only [Part.object_read, Part.iso_read, Part.both_read, Part.optional_read, Codec.list_read,
        Requirement.codec_read, Dictionary.codec_read, ofJson?, Option.bind_eq_bind, Option.bind_assoc]
      refine Option.bind_congr fun members _ => ?_
      exact Option.bind_comm ..)
    (by simp [toJson])
    (by simp)

/-! ### Volumes -/

theorem volumeFields_stable : Shape.areStable Shape.volumeFields = true := by decide +kernel

theorem mountFields_stable : Shape.areStable Shape.mountFields = true := by decide +kernel

@[simps! -fullyApplied read write Holds]
def ClaimReference.codec : Codec ClaimReference :=
  ((Part.lenient "claimName" "" .text (Codec.text_holds _)).both (.optional "readOnly" .flag)).iso
    (fun (name, readOnly) => { name, readOnly }) (fun c => (c.name, c.readOnly))
    (fun _ => rfl) (fun _ => rfl)
  |>.object (by decide) |>.as ofJson? toJson (fun _ => True)
    (by simp [ofJson?, Option.bind_assoc])
    (by simp [toJson])
    (by simp)

/-- What is carried along is what volumes have. -/
def Volume.IsProper (v : Volume) : Prop := Shape.Carried Shape.volumeFields v.more

@[simps! -fullyApplied read write Holds]
def Volume.codec : Codec Volume :=
  ((Part.lenient "name" "" .text (Codec.text_holds _)).both <|
    (Part.optional "persistentVolumeClaim" ClaimReference.codec).both <|
    .carried Shape.volumeFields volumeFields_stable).iso
    (fun (name, claim, more) => { name, claim, more }) (fun v => (v.name, v.claim, v.more))
    (fun _ => rfl) (fun _ => rfl)
  |>.object (by decide +kernel) |>.as ofJson? toJson Volume.IsProper
    (by simp [ofJson?, Option.bind_assoc])
    (by simp [toJson])
    (by simp [Volume.IsProper])

def VolumeMount.IsProper (m : VolumeMount) : Prop := Shape.Carried Shape.mountFields m.more

@[simps! -fullyApplied read write Holds]
def VolumeMount.codec : Codec VolumeMount :=
  ((Part.lenient "mountPath" "" .text (Codec.text_holds _)).both <|
    (Part.lenient "name" "" .text (Codec.text_holds _)).both <|
    .carried Shape.mountFields mountFields_stable).iso
    (fun (path, name, more) => { name, path, more }) (fun m => (m.path, m.name, m.more))
    (fun _ => rfl) (fun _ => rfl)
  |>.object (by decide +kernel) |>.as ofJson? toJson VolumeMount.IsProper
    (by
      intro j
      simp only [Part.object_read, Part.iso_read, Part.both_read, Part.lenient_read, Codec.text_read,
        Part.carried_read, ofJson?, Option.bind_eq_bind, Option.bind_assoc]
      refine Option.bind_congr fun members _ => ?_
      exact Option.bind_comm ..)
    (by simp [toJson])
    (by simp [VolumeMount.IsProper])

end Cluster

end ClusterBackup
