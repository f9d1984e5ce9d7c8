import ClusterBackup.Proofs.Program.Path
import ClusterBackup.Proofs.Text.Path
import ClusterBackup.Tool.Listing

/-! Where a repository is: the backend with the path of a host beside it, as backups use it, and
the backend with that path in it, as it is recorded. -/

set_option autoImplicit false

namespace ClusterBackup

open Program Cluster Text

namespace Path

/-- The characters of the directory of a volume. -/
def directoryChars (mount path : List Char) : List Char :=
  let below := trimWhile (· = '/') path
  if below = [] then mount
  else if mount = [] then below
  else if mount.getLast? = some '/' then mount ++ below
  else mount ++ '/' :: below

theorem toList_directoryOf (v : VolumeBackend) (path : String) :
    (Environment.directoryOf v path).toList = directoryChars v.mountPath.toList path.toList := by
  have below : segments [path] = String.ofList (trimWhile (· = '/') path.toList) := by
    rw [← toList_segments_one, String.ofList_toList]
  unfold Environment.directoryOf directoryChars
  rw [below]
  simp only [Path.join, String.toList_ofList, head?_trimmed, false_or,
    ← String.toList_eq_nil_iff]
  by_cases none : trimWhile (· = '/') path.toList = []
  · simp only [none, if_true]
  by_cases empty : v.mountPath.toList = []
  · simp only [none, empty, if_true, if_false, String.toList_ofList]
  by_cases slash : v.mountPath.toList.getLast? = some '/'
  · simp only [none, empty, slash, if_true, if_false, String.toList_append, String.toList_ofList]
  · simp [none, empty, slash]

theorem names_directoryChars (mount path : List Char) :
    names (directoryChars mount path) = names mount ++ names (trimWhile (· = '/') path) := by
  unfold directoryChars
  by_cases none : trimWhile (· = '/') path = []
  · rw [if_pos none, none]
    exact (List.append_nil _).symm
  by_cases empty : mount = []
  · rw [if_neg none, if_pos empty, empty]
    rfl
  by_cases slash : mount.getLast? = some '/'
  · obtain ⟨start, rfl⟩ := List.getLast?_eq_some_iff.mp slash
    rw [if_neg none, if_neg empty, if_pos slash, List.append_assoc, List.singleton_append,
      names_append, names_append]
    simp [names, splitAt]
  · rw [if_neg none, if_neg empty, if_neg slash, names_append]

theorem rooted_directoryChars (mount path : List Char) :
    (directoryChars mount path).head? = some '/' ↔ mount.head? = some '/' := by
  unfold directoryChars
  by_cases none : trimWhile (· = '/') path = []
  · rw [if_pos none]
  cases mount with
  | nil => simpa [none] using head?_trimmed path
  | cons c rest =>
    rw [if_neg none, if_neg (List.cons_ne_nil c rest)]
    split <;> rfl

/-- The directory of a volume is the one that is recorded, unless the volume is mounted at
the root: the recorded path has lost it. -/
theorem place_directoryOf_iff (v : VolumeBackend) (path : String) :
    place (Environment.directoryOf v path) = place (appendPath v.mountPath path) ↔
      ¬ IsRoot v.mountPath := by
  have root : IsRoot v.mountPath ↔ v.mountPath.toList.head? = some '/' ∧
      ∀ c ∈ v.mountPath.toList, c = '/' := by
    rw [IsRoot, ne_eq, ← String.toList_eq_nil_iff]
    cases v.mountPath.toList <;> simp +contextual
  -- The names between the slashes are the same; only the first slash can make a difference.
  simp only [place, toList_directoryOf, toList_appendPath, names_directoryChars, names_appendChars,
    Place.mk.injEq, and_true]
  rw [root, Bool.eq_iff_iff, beq_iff_eq, beq_iff_eq, rooted_directoryChars, rooted_appendChars]
  constructor
  · exact fun same both => (same.mp both.1).2 both.2
  · exact fun other => ⟨fun first => ⟨first, fun all => other ⟨first, all⟩⟩, And.left⟩

end Path

namespace Provider

def extend (path : String) : Provider → Provider
  | .volume v => .volume { v with mountPath := appendPath v.mountPath path }
  | .s3 s => .s3 { s with path := appendPath s.path path }
  | .gcs b => .gcs (b.extend path)
  | .azure b => .azure (b.extend path)
  | .swift b => .swift (b.extend path)
  | .b2 b => .b2 (b.extend path)
  | .rest url => .rest url

def IsRoot : Provider → Prop
  | .volume v => Path.IsRoot v.mountPath
  | _ => False

end Provider

namespace Backend

theorem providers_extend (b : Backend) (path : String) :
    (b.extend path).providers = b.providers.map (Provider.extend path) := by
  simp only [providers, extend, List.map_append, Option.toList_map, List.map_map]
  rfl

theorem provider_extend {b : Backend} {provider : Provider} (provided : b.provider = .ok provider)
    (path : String) : (b.extend path).provider = .ok (provider.extend path) := by
  unfold Backend.provider at provided ⊢
  rw [providers_extend]
  split at provided
  · rename_i one only
    cases provided
    rw [only]
    rfl
  · cases provided
  · cases provided

end Backend

/-- Setting up comes to this result where every step on files succeeds. -/
def SetupPlan.ComesTo (plan : SetupPlan) (result : Except Failure Environment) : Prop :=
  ∃ trace, Path plan.perform.run trace (.done result) ∧
    ∀ e ∈ trace, ∃ step, e = ⟨.file step, .ok ()⟩

theorem SetupPlan.comesTo_iff (plan : SetupPlan) (result : Except Failure Environment) :
    plan.ComesTo result ↔ result = plan.outcome := by
  obtain ⟨steps, outcome⟩ := plan
  -- Every step succeeds, so that the plan goes on to the next one, and at the end to its outcome.
  induction steps with
  | nil =>
    constructor
    · rintro ⟨trace, path, _⟩
      have ended : Path (.done outcome) trace (.done result : Program Request _) := path
      cases ended
      rfl
    · rintro rfl
      exact ⟨[], .here _, by simp⟩
  | cons step rest ih =>
    let after (reply : Except Failure Unit) : Program Request (Except Failure Environment) :=
      match reply with
      | .ok _ => (SetupPlan.perform ⟨rest, outcome⟩).run
      | .error failure => .done (.error failure)
    have unfolds : (SetupPlan.perform ⟨step :: rest, outcome⟩).run =
        .request (.file step) after := by
      refine congrArg (Program.request (Request.file step)) (funext fun reply => ?_)
      cases reply <;> rfl
    constructor
    · rintro ⟨trace, path, succeed⟩
      rw [unfolds] at path
      cases path with
      | request path =>
        obtain ⟨_, same⟩ := succeed _ List.mem_cons_self
        cases same
        exact ih.mp ⟨_, path, fun e member => succeed e (List.mem_cons_of_mem _ member)⟩
    · intro same
      obtain ⟨trace, path, succeed⟩ := ih.mpr same
      refine ⟨⟨.file step, .ok ()⟩ :: trace, ?_, ?_⟩
      · rw [unfolds]
        exact .request path
      · rintro e member
        rcases List.mem_cons.mp member with rfl | member
        · exact ⟨step, rfl⟩
        · exact succeed e member

namespace Environment

theorem addressOf_extend {provider : Provider} (secret : Secret) (path : String)
    (elsewhere : ∀ v, provider ≠ .volume v) :
    addressOf (provider.extend path) secret "" = addressOf provider secret path := by
  have pair (base : String) :
      Path.segments [appendPath base path, ""] = Path.segments [base, path] :=
    Path.segments_appendPath [] base path
  have behind (bucket base : String) :
      Path.segments [bucket, appendPath base path, ""] = Path.segments [bucket, base, path] :=
    Path.segments_appendPath [bucket] base path
  cases provider with
  | volume v => exact absurd rfl (elsewhere v)
  | s3 s => simp only [addressOf, Provider.extend, behind]
  | rest url => rfl
  | gcs b | azure b | swift b | b2 b =>
    simp only [addressOf, bucketAddress, Provider.extend, Bucket.extend, pair]

theorem directoryOf_nil (v : VolumeBackend) : directoryOf v "" = v.mountPath := rfl

theorem outcome_repository {backend : Backend} {provider : Provider}
    (provided : backend.provider = .ok provider) (secret : Secret) (scratch path : String) :
    (plan backend secret scratch path).outcome.map repository? =
      match secret.text? passwordKey with
      | none => .error (.validation ("secret " ++ backend.secretName ++ " has no " ++ passwordKey))
      | some _ => (addressOf provider secret path).map some := by
  unfold plan
  rw [provided]
  cases secret.text? passwordKey with
  | none => rfl
  | some password =>
    simp only
    cases addressOf provider secret path with
    | error failure => rfl
    | ok address => simp [repository?, Except.map, Bind.bind, Except.bind, Pure.pure, Except.pure]

/-- Both failed, or both have the same address; a directory is the same whatever slashes are
repeated in its path or stand at its end. -/
def SameAddress (provider : Provider) : Except Failure (Option String) →
    Except Failure (Option String) → Prop
  | .error _, .error _ => True
  | .ok first, .ok second => match provider with
    | .volume _ => first.map Path.place = second.map Path.place
    | _ => first = second
  | _, _ => False

theorem sameAddress_refl (provider : Provider) (result : Except Failure (Option String)) :
    SameAddress provider result result := by
  cases result with
  | error failure => trivial
  | ok address => cases provider <;> rfl

/-- The outcomes of setting up locate the same repository. -/
def SamePlace (provider : Provider) (direct recorded : Except Failure Environment) : Prop :=
  SameAddress provider (direct.map repository?) (recorded.map repository?)

/-- Check and restore look where backups have put the snapshots, unless these are at the root of
a volume: the recorded path is then relative. -/
theorem samePlace_iff {backend : Backend} {provider : Provider}
    (provided : backend.provider = .ok provider) {secret : Secret} {scratch path : String}
    {direct recorded : Except Failure Environment}
    (here : (plan backend secret scratch path).ComesTo direct)
    (there : (plan (backend.extend path) secret scratch "").ComesTo recorded) :
    SamePlace provider direct recorded ↔
      ¬ (provider.IsRoot ∧ (secret.text? passwordKey).isSome) := by
  rw [SetupPlan.comesTo_iff] at here there
  subst here there
  rw [SamePlace, outcome_repository provided,
    outcome_repository (backend.provider_extend provided path)]
  cases secret.text? passwordKey with
  | none => simp [SameAddress]
  | some password =>
    simp only [Option.isSome_some, and_true]
    -- All addresses but the directory of a volume are made of the same segments.
    by_cases local_ : ∃ v, provider = .volume v
    · obtain ⟨v, rfl⟩ := local_
      simpa [SameAddress, addressOf, Provider.extend, Provider.IsRoot, directoryOf_nil, Except.map]
        using Path.place_directoryOf_iff v path
    · have elsewhere (v : VolumeBackend) : provider ≠ .volume v := fun same => local_ ⟨v, same⟩
      rw [addressOf_extend secret path elsewhere]
      refine iff_of_true (sameAddress_refl provider _) ?_
      cases provider with
      | volume v => exact absurd rfl (elsewhere v)
      | _ => exact id

section

def rootVolume : VolumeBackend := { volume := { name := "data" }, mountPath := "/" }

def keys : Secret :=
  { metadata := Metadata.named "apps" "keys", bytes := some [(passwordKey, [])] }

theorem samePlace_iff_root :
    let backend : Backend := { volume := some rootVolume, secretName := "keys" }
    ¬ SamePlace (.volume rootVolume) (plan backend keys "/tmp" "apps").outcome
      (plan (backend.extend "apps") keys "/tmp" "").outcome := by
  intro backend same
  have root : Path.IsRoot rootVolume.mountPath := ⟨by decide, by simp [rootVolume]⟩
  have password : (keys.text? passwordKey).isSome := by decide
  exact (samePlace_iff rfl ((SetupPlan.comesTo_iff _ _).mpr rfl)
    ((SetupPlan.comesTo_iff _ _).mpr rfl)).mp same ⟨root, password⟩

end

end Environment

end ClusterBackup
