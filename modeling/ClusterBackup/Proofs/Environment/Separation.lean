import ClusterBackup.Proofs.Environment.Location
import ClusterBackup.Proofs.Program.Ending

/-! Hosts that share a backend: which paths give them repositories of their own. -/

set_option autoImplicit false

namespace ClusterBackup

open Program Cluster Text

namespace Path

theorem joinWith_append_one (separator : List Char) {before : List (List Char)}
    (present : before ≠ []) (piece : List Char) :
    joinWith separator (before ++ [piece]) = joinWith separator before ++ separator ++ piece := by
  induction before with
  | nil => exact absurd rfl present
  | cons first rest ih =>
    cases rest with
    | nil => rfl
    | cons next rest =>
      have shorter := ih (List.cons_ne_nil next rest)
      simp only [List.cons_append, joinWith, List.append_assoc] at shorter ⊢
      rw [shorter]

/-- What stands behind the segments that a last one is joined to. -/
def lastPart (path : List Char) : List Char :=
  if trimWhile (· = '/') path = [] then [] else '/' :: trimWhile (· = '/') path

theorem lastPart_inj {path other : List Char} :
    lastPart path = lastPart other ↔ trimWhile (· = '/') path = trimWhile (· = '/') other := by
  unfold lastPart
  cases trimWhile (· = '/') path <;> cases trimWhile (· = '/') other <;> simp

theorem joinWith_pieces_one (before : List (List Char)) (path : List Char) :
    joinWith ['/'] (before ++ pieces [path]) =
      if before = [] then trimWhile (· = '/') path else joinWith ['/'] before ++ lastPart path := by
  rw [pieces_cons, pieces_nil, lastPart]
  by_cases none : trimWhile (· = '/') path = []
  · by_cases alone : before = [] <;> simp [none, alone, joinWith]
  by_cases alone : before = []
  · simp [none, alone, joinWith]
  · rw [if_neg none, if_neg none, if_neg alone, joinWith_append_one ['/'] alone, List.append_assoc,
      List.singleton_append]

theorem trimChar_inj {path other : String} : trimChar '/' path = trimChar '/' other ↔
    trimWhile (· = '/') path.toList = trimWhile (· = '/') other.toList := by
  rw [trimChar, trimChar, onChars, onChars, String.ofList_inj]

/-- The last segment can be told from the path, whatever is before it. -/
theorem segments_last_inj (before : List String) {path other : String} :
    segments (before ++ [path]) = segments (before ++ [other]) ↔
      trimChar '/' path = trimChar '/' other := by
  rw [← String.toList_inj, toList_segments, toList_segments]
  simp only [List.map_append, List.map_cons, List.map_nil, pieces_append, joinWith_pieces_one,
    trimChar_inj]
  by_cases alone : pieces (before.map String.toList) = []
  · rw [if_pos alone, if_pos alone]
  · rw [if_neg alone, if_neg alone, List.append_cancel_left_eq, lastPart_inj]

theorem directoryChars_inj (mount : List Char) {path other : List Char} :
    directoryChars mount path = directoryChars mount other ↔
      trimWhile (· = '/') path = trimWhile (· = '/') other := by
  unfold directoryChars
  by_cases empty : mount = []
  · cases trimWhile (· = '/') path <;> cases trimWhile (· = '/') other <;> simp [empty]
  · by_cases slash : mount.getLast? = some '/' <;> cases trimWhile (· = '/') path <;>
      cases trimWhile (· = '/') other <;> simp [empty, slash]

theorem directoryOf_inj (v : VolumeBackend) {path other : String} :
    Environment.directoryOf v path = Environment.directoryOf v other ↔
      trimChar '/' path = trimChar '/' other := by
  rw [← String.toList_inj, toList_directoryOf, toList_directoryOf, directoryChars_inj, trimChar_inj]

end Path

/-- A plan that has been carried out to its end comes to its own outcome. -/
theorem SetupPlan.outcome_of_path {plan : SetupPlan} {trace : List (Exchange Request)}
    {e : Environment} (path : Path plan.perform.run trace (.done (.ok e))) :
    plan.outcome = .ok e := by
  rcases Path.of_bind_ok path with ⟨_, impossible, _⟩ | ⟨_, steps, last, rfl, _, ended⟩
  · cases impossible
  · exact (Path.of_done ended).2.symm

namespace Environment

variable {backend : Backend} {provider : Provider} {secret : Secret}

/-- Every provider puts the path into the address, but for a server: it is asked under its own
address for whichever host. -/
theorem addressOf_inj {path other first second : String}
    (one : addressOf provider secret path = .ok first)
    (two : addressOf provider secret other = .ok second) :
    first = second ↔ (∃ url, provider = .rest url) ∨ trimChar '/' path = trimChar '/' other := by
  have bucket (scheme : String) (b : Bucket) : bucketAddress scheme b path =
      bucketAddress scheme b other ↔ trimChar '/' path = trimChar '/' other := by
    rw [bucketAddress, bucketAddress, String.append_right_inj]
    exact Path.segments_last_inj [b.path]
  cases provider with
  | rest url =>
    have same : Except.ok first = Except.ok second := one.symm.trans two
    exact iff_of_true (Except.ok.inj same) (.inl ⟨url, rfl⟩)
  | volume v =>
    simp only [addressOf, Except.ok.injEq] at one two
    simp [← one, ← two, Path.directoryOf_inj]
  | s3 s =>
    simp only [addressOf, Except.ok.injEq] at one two
    rw [← one, ← two, String.append_right_inj]
    simpa using Path.segments_last_inj [s.bucket, s.path]
  | gcs b | azure b | swift b | b2 b =>
    simp only [addressOf, Except.ok.injEq] at one two
    simp [← one, ← two, bucket]

theorem repository_of_outcome {scratch path : String} {e : Environment}
    (provided : backend.provider = .ok provider)
    (set : (plan backend secret scratch path).outcome = .ok e) :
    ∃ address, addressOf provider secret path = .ok address ∧ e.repository? = some address := by
  have whole := outcome_repository provided secret scratch path
  rw [set] at whole
  split at whole
  · cases whole
  · cases found : addressOf provider secret path with
    | error failure =>
      rw [found] at whole
      cases whole
    | ok address =>
      rw [found] at whole
      exact ⟨address, rfl, Except.ok.inj whole⟩

/-- Hosts have repositories of their own where their paths differ between the slashes around
them, unless the backend is a server. -/
theorem repository_separates {scratch other path next : String} {e f : Environment}
    {trace later : List (Exchange Request)} (provided : backend.provider = .ok provider)
    (first : Path (plan backend secret scratch path).perform.run trace (.done (.ok e)))
    (second : Path (plan backend secret other next).perform.run later (.done (.ok f))) :
    ∃ here there, e.repository? = some here ∧ f.repository? = some there ∧
      (here = there ↔
        (∃ url, provider = .rest url) ∨ trimChar '/' path = trimChar '/' next) := by
  obtain ⟨here, addressed, located⟩ :=
    repository_of_outcome provided (SetupPlan.outcome_of_path first)
  obtain ⟨there, readdressed, relocated⟩ :=
    repository_of_outcome provided (SetupPlan.outcome_of_path second)
  exact ⟨here, there, located, relocated, addressOf_inj addressed readdressed⟩

section

def server : Backend := { rest := some "http+unix:///run/rest.socket:/apps/", secretName := "keys" }

theorem repository_separates_not_server :
    trimChar '/' "db-0" ≠ trimChar '/' "db-1" ∧ ∃ e f,
      (plan server keys "/tmp" "db-0").outcome = .ok e ∧
      (plan server keys "/tmp" "db-1").outcome = .ok f ∧ e.repository? = f.repository? := by
  -- What is set up for a server does not depend on the path at all.
  have sets (path : String) : ∃ e trace, (plan server keys "/tmp" path).outcome = .ok e ∧
      Path (plan server keys "/tmp" path).perform.run trace (.done (.ok e)) := by
    have ready : (plan server keys "/tmp" "").outcome.toBool := by decide +kernel
    cases set : (plan server keys "/tmp" "").outcome with
    | error failure =>
      rw [set] at ready
      cases ready
    | ok e =>
      obtain ⟨trace, done, _⟩ := (SetupPlan.comesTo_iff _ _).mpr set.symm
      exact ⟨e, trace, set, done⟩
  obtain ⟨e, _, set, first⟩ := sets "db-0"
  obtain ⟨f, _, reset, second⟩ := sets "db-1"
  obtain ⟨here, there, located, relocated, same⟩ := repository_separates rfl first second
  refine ⟨by decide, e, f, set, reset, ?_⟩
  rw [located, relocated, same.mpr (.inl ⟨_, rfl⟩)]

end

end Environment

end ClusterBackup
