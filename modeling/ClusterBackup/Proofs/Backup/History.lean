import ClusterBackup.Proofs.Program.Interleaving
import ClusterBackup.Proofs.Program.Within
import ClusterBackup.Proofs.Store.Evolution
import ClusterBackup.Run.Backup

/-! Histories of the runs in one namespace.

Any number of runs of any hosts and configurations take their turns. Between two requests
everything may be edited but the repositories: these have the description with which a run
has made them. -/

set_option autoImplicit false

universe v

namespace ClusterBackup

open Program Simulation Simulation.Store

/-- One run of a configuration by a host. -/
structure Run where
  setting : Setting
  host : Host
  name : String
  time : Instant

namespace Run

def code (run : Run) (nameSpace : String) : Program Request (Except Failure Unit) :=
  (Backup.runOnce run.setting run.host nameSpace run.name run.time).run

def backend (run : Run) (config : Configuration) : Backend :=
  config.spec.backend.extend (run.host.path config.spec.autoPath)

def repository (run : Run) (config : Configuration) : String :=
  run.host.repositoryName config.spec.autoPath

def founding (run : Run) (nameSpace : String) (config : Configuration) :
    Request (Except Failure Repository) :=
  .create .repository
    (Repository.ofHost nameSpace (run.repository config) config.name (run.backend config))

end Run

/-- The store, and every exchange that there was, with the run whose exchange it was. -/
structure Annals (κ : Type v) where
  store : Store
  log : List (κ × Exchange Request)

namespace Annals

variable {κ : Type v} [DecidableEq κ]

def of (s : Annals κ) (c : κ) : List (Exchange Request) :=
  s.log.filterMap fun (d, e) => if d = c then some e else none

/-- After some edits the store replies to a run. -/
def Records (nameSpace : String) (c : κ) (s : Annals κ) (e : Exchange Request) (t : Annals κ) :
    Prop :=
  (∃ edited, SameRepositories nameSpace s.store edited ∧ edited.Answers e t.store) ∧
    t.log = s.log ++ [(c, e)]

variable (runs : κ → Run) (nameSpace : String)

def Reads (c : κ) (config : Configuration) (s : Annals κ) : Prop :=
  (s.of c).head? = some ⟨.get .configuration nameSpace (runs c).name, .ok (some config)⟩

/-- A run has made the repository of this name, for the backend where it puts its snapshots. -/
def Makes (c : κ) (config : Configuration) (name : String) (s : Annals κ) : Prop :=
  (runs c).repository config = name ∧
    ∃ made, (c, ⟨(runs c).founding nameSpace config, .ok made⟩) ∈ s.log

/-- Every repository is the one that some run has made. -/
def Founded (s : Annals κ) : Prop :=
  ∀ name r, s.store.find? .repository nameSpace name = some r →
    ∃ c config, Reads runs nameSpace c config s ∧ Makes runs nameSpace c config name s ∧
      r.spec.backend = (runs c).backend config

/-- Repositories stay, with the description that they have. -/
def Persists (s t : Annals κ) : Prop :=
  ∀ name (r : Repository), s.store.find? .repository nameSpace name = some r →
    ∃ r', t.store.find? .repository nameSpace name = some r' ∧ r'.spec = r.spec

/-- What any run may do to the store. -/
def Later (s t : Annals κ) : Prop :=
  Persists nameSpace s t ∧ (Founded runs nameSpace s → Founded runs nameSpace t)

theorem Later.refl (s : Annals κ) : Later runs nameSpace s s :=
  ⟨fun _ r found => ⟨r, found, rfl⟩, id⟩

variable {runs nameSpace}

theorem Later.trans {s t u : Annals κ} (first : Later runs nameSpace s t)
    (second : Later runs nameSpace t u) : Later runs nameSpace s u := by
  refine ⟨fun name r found => ?_, second.2 ∘ first.2⟩
  obtain ⟨r', found', same⟩ := first.1 name r found
  obtain ⟨r'', found'', same'⟩ := second.1 name r' found'
  exact ⟨r'', found'', same'.trans same⟩

variable (runs nameSpace) in
/-- A run relies on the others to leave its exchanges alone. -/
def terms : κ → Terms Request (Annals κ) :=
  .among (Records nameSpace) (Later runs nameSpace) (Later.refl runs nameSpace) Later.trans
    fun c s => s.of c

theorem Records.of_self {c : κ} {s t : Annals κ} {e : Exchange Request}
    (records : Records nameSpace c s e t) : t.of c = s.of c ++ [e] := by
  simp [of, records.2]

theorem Records.of_other {c d : κ} {s t : Annals κ} {e : Exchange Request}
    (records : Records nameSpace c s e t) (other : d ≠ c) : t.of d = s.of d := by
  simp [of, records.2, Ne.symm other]

theorem Reads.records {c d : κ} {s t : Annals κ} {e : Exchange Request} {config : Configuration}
    (reads : Reads runs nameSpace d config s) (records : Records nameSpace c s e t) :
    Reads runs nameSpace d config t := by
  -- A new exchange comes last, so the first one stays what it was.
  by_cases same : d = c
  · subst same
    rw [Reads, records.of_self, List.head?_append, reads]
    rfl
  · rw [Reads, records.of_other same]
    exact reads

omit [DecidableEq κ] in
theorem Makes.records {c d : κ} {s t : Annals κ} {e : Exchange Request} {config : Configuration}
    {name : String} (makes : Makes runs nameSpace d config name s)
    (records : Records nameSpace c s e t) : Makes runs nameSpace d config name t := by
  obtain ⟨named, made, member⟩ := makes
  exact ⟨named, made, by rw [records.2]; exact List.mem_append_left _ member⟩

omit [DecidableEq κ] in
theorem Records.same {c : κ} {s t : Annals κ} {e : Exchange Request}
    (records : Records nameSpace c s e t) (neutral : Neutral e.request) :
    SameRepositories nameSpace s.store t.store := by
  obtain ⟨⟨edited, same, answers⟩, _⟩ := records
  exact same.trans (answers.same neutral)

theorem Records.guarantee {c : κ} {s t : Annals κ} {e : Exchange Request}
    (records : Records nameSpace c s e t) (same : SameRepositories nameSpace s.store t.store) :
    (terms runs nameSpace c).guarantee s e t := by
  refine ⟨⟨fun name r found => same.found found, fun founded name r found => ?_⟩,
    fun d other => records.of_other other⟩
  obtain ⟨old, foundOld, spec⟩ := same.symm.found found
  obtain ⟨d, config, reads, makes, backend⟩ := founded name old foundOld
  exact ⟨d, config, reads.records records, makes.records records, spec ▸ backend⟩

theorem of_eq_of_rely {c : κ} {s t : Annals κ} (others : (terms runs nameSpace c).rely s t) :
    t.of c = s.of c :=
  others.2

theorem Reads.stable (c : κ) (config : Configuration) :
    (terms runs nameSpace c).Stable (Reads runs nameSpace c config) := by
  intro s t others reads
  rw [Reads, of_eq_of_rely others]
  exact reads

def Has (nameSpace name : String) (s : Annals κ) : Prop :=
  ∃ r, s.store.find? .repository nameSpace name = some r

omit [DecidableEq κ] in
theorem Has.later {s t : Annals κ} {name : String} (has : Has nameSpace name s)
    (later : Persists nameSpace s t) : Has nameSpace name t := by
  obtain ⟨r, found⟩ := has
  obtain ⟨r', found', _⟩ := later name r found
  exact ⟨r', found'⟩

end Annals

end ClusterBackup
