import ClusterBackup.Proofs.Backup.History
import ClusterBackup.Proofs.Backup.Footprint

/-! The repository on which a run is recorded.

Its description is the one with which some run has made it, whatever has been edited since. -/

set_option autoImplicit false

universe v

namespace ClusterBackup

open Program Simulation Simulation.Store

namespace Annals

variable {κ : Type v} [DecidableEq κ] {runs : κ → Run} {nameSpace : String} {c : κ}
  {config : Configuration} {s t : Annals κ}

theorem ensures_neutral {α : Type} {p : Program Request α} {holds : Annals κ → Prop}
    (stable : (terms runs nameSpace c).Stable holds)
    (keeps : ∀ s e t, Records nameSpace c s e t → Persists nameSpace s t → holds s → holds t)
    (neutral : Within Neutral p) (first : holds s) :
    Ensures (terms runs nameSpace c) p (fun _ t => holds t) s :=
  neutral.ensures stable (fun _ _ allowed s _ t holds records =>
    have same := records.same allowed
    ⟨records.guarantee same, keeps s _ t records (fun _ _ found => same.found found) holds⟩) first

theorem Has.stable (name : String) :
    (terms runs nameSpace c).Stable (Has nameSpace name) :=
  fun _ _ later has => has.later later.1.1

/-- What a reply to the making of a repository tells. -/
def Told (nameSpace name : String) : Except Failure Repository → Annals κ → Prop
  | .ok _, s => Has nameSpace name s
  | .error failure, s => failure.isConflict = true → Has nameSpace name s

theorem Told.stable (name : String) (reply : Except Failure Repository) :
    (terms runs nameSpace c).Stable (Told nameSpace name reply) := by
  intro s t later told
  cases reply with
  | ok made => exact Has.stable name s t later told
  | error failure => exact fun conflict => Has.stable name s t later (told conflict)

theorem Records.founds {edited : Store} {made : Repository}
    (reads : Reads runs nameSpace c config s)
    (records : Records nameSpace c s ⟨(runs c).founding nameSpace config, .ok made⟩ t)
    (same : SameRepositories nameSpace s.store edited)
    (absent : edited.find? .repository nameSpace ((runs c).repository config) = none)
    (store : t.store = (edited.accept .repository (Repository.ofHost nameSpace
      ((runs c).repository config) config.name ((runs c).backend config))).2) :
    Later runs nameSpace s t ∧ Has nameSpace ((runs c).repository config) t := by
  let own := (runs c).repository config
  let object := Repository.ofHost nameSpace own config.name ((runs c).backend config)
  have here : t.store.find? .repository nameSpace own =
      some (withVersion (edited.version + 1) object) := by
    rw [store]
    exact find?_accept_self edited object
  have elsewhere {name : String} (differs : name ≠ own) :
      t.store.find? .repository nameSpace name = edited.find? .repository nameSpace name := by
    rw [store]
    exact find?_accept_other edited object fun same => differs same.2.2.symm
  refine ⟨⟨?persists, ?founded⟩, _, here⟩
  case persists =>
    intro name r found
    obtain ⟨r', found', spec⟩ := same.found found
    by_cases equal : name = own
    · subst equal
      exact absurd (absent.symm.trans found') nofun
    · exact ⟨r', by rw [elsewhere equal, found'], spec⟩
  case founded =>
    -- The new repository is the run's own. All others were founded before.
    intro founded name r found
    by_cases equal : name = own
    · subst equal
      obtain rfl := Option.some.inj (here.symm.trans found)
      refine ⟨c, config, reads.records records, ⟨rfl, made, ?_⟩, rfl⟩
      rw [records.2]
      exact List.mem_append_right _ (List.mem_singleton.mpr rfl)
    · rw [elsewhere equal] at found
      obtain ⟨old, foundOld, spec⟩ := same.symm.found found
      obtain ⟨d, config', readsOld, makes, backend⟩ := founded name old foundOld
      exact ⟨d, config', readsOld.records records, makes.records records, spec ▸ backend⟩

theorem Records.create {reply : Except Failure Repository} (reads : Reads runs nameSpace c config s)
    (records : Records nameSpace c s ⟨(runs c).founding nameSpace config, reply⟩ t) :
    (terms runs nameSpace c).guarantee s ⟨(runs c).founding nameSpace config, reply⟩ t ∧
      Told nameSpace ((runs c).repository config) reply t := by
  obtain ⟨edited, same, served | ⟨unchanged, failed⟩⟩ := records.1
  · have created := create_created edited (Repository.ofHost nameSpace
      ((runs c).repository config) config.name ((runs c).backend config))
    rw [← show (reply, t.store) = edited.create .repository _ from served] at created
    generalize after : t.store = store at created
    cases created with
    | @existing old found =>
      exact ⟨records.guarantee (after ▸ same), fun _ => ⟨old, after ▸ found⟩⟩
    | accepted absent =>
      obtain ⟨later, has⟩ := records.founds reads same absent after
      exact ⟨⟨later, fun d other => records.of_other other⟩, has⟩
  · have keeps : SameRepositories nameSpace s.store t.store := unchanged ▸ same
    obtain ⟨failure, rfl, other⟩ := failed
    refine ⟨records.guarantee keeps, fun conflict => ?_⟩
    rw [other] at conflict
    cases conflict

omit [DecidableEq κ] in
theorem Records.get {kind : ResourceKind} {name : String} {found : Option (Resource kind)}
    (records : Records nameSpace c s ⟨.get kind nameSpace name, .ok found⟩ t) :
    t.store.find? kind nameSpace name = found := by
  obtain ⟨⟨edited, _, ⟨reply, after⟩ | ⟨_, failure, failed⟩⟩, _⟩ := records
  · rw [after]
    exact (Except.ok.inj reply).symm
  · cases failed

/-- What a run knows of its repository when it has seen to it. -/
def Ready (runs : κ → Run) (nameSpace : String) (c : κ) (config : Configuration) (name : String)
    (s : Annals κ) : Prop :=
  name = (runs c).repository config ∧ Has nameSpace name s

theorem Ready.stable (name : String) :
    (terms runs nameSpace c).Stable (Ready runs nameSpace c config name) :=
  fun _ _ later ready => ⟨ready.1, ready.2.later later.1.1⟩

theorem ensures_founding (reads : Reads runs nameSpace c config s) :
    Ensures (terms runs nameSpace c)
      (Action.attempt (Action.ask ((runs c).founding nameSpace config))).run
      (IfOk (Told nameSpace ((runs c).repository config))) s := by
  have stable (result : Except Failure (Except Failure Repository)) :
      (terms runs nameSpace c).Stable
        (IfOk (Told nameSpace ((runs c).repository config)) result) :=
    Terms.stable_ifOk (Told.stable _) result
  refine Ensures.lift stable (Ensures.ask fun t later made u records => ?_)
  have created := Records.create (Reads.stable c config s t later reads) records
  exact ⟨created.1, fun v more => Told.stable _ made u v more created.2⟩

theorem ensures_ensureRepository (reads : Reads runs nameSpace c config s) :
    Ensures (terms runs nameSpace c) (Backup.ensureRepository (runs c).host nameSpace config).run
      (IfOk (Ready runs nameSpace c config)) s := by
  have final {t : Annals κ} (has : Has nameSpace ((runs c).repository config) t) :
      Ensures (terms runs nameSpace c) (pure ((runs c).repository config) : Action String).run
        (IfOk (Ready runs nameSpace c config)) t :=
    fun u later => ⟨rfl, has.later later.1.1⟩
  -- Whether it was found, made, or made by another run in between: there is one at the end.
  refine Ensures.bind_ok (Terms.stable_ifOk Ready.stable)
    (Ensures.ask fun t later reply u records => ?_)
  refine ⟨records.guarantee (records.same trivial), fun v more => ?_⟩
  have reads := (Reads.stable c config s t later reads).records records
  have reads := Reads.stable c config u v more reads
  rcases reply with failure | _ | old
  · trivial
  · refine Ensures.bind_ok (Terms.stable_ifOk Ready.stable)
      ((ensures_founding reads).weaken fun result w told => ?_)
    rcases result with failure | failure | made
    · trivial
    · by_cases conflict : failure.isConflict = true
      · simp only [conflict, if_true]
        exact final (told conflict)
      · simp only [conflict]
        exact fun _ _ => trivial
    · exact final told
  · exact final (Has.stable _ _ _ more ⟨old, records.get⟩)

theorem ensures_after {α β : Type} {a : Action α} {f : α → Action β} {holds : Annals κ → Prop}
    {post : Except Failure β → Annals κ → Prop}
    (stable : ∀ result, (terms runs nameSpace c).Stable (post result))
    (stays : (terms runs nameSpace c).Stable holds)
    (keeps : ∀ s e t, Records nameSpace c s e t → Persists nameSpace s t → holds s → holds t)
    (neutral : a.IsNeutral) (failed : ∀ failure t, holds t → post (.error failure) t)
    (rest : ∀ x t, holds t → Ensures (terms runs nameSpace c) (f x).run post t) (first : holds s) :
    Ensures (terms runs nameSpace c) (a >>= f).run post s :=
  .after stable (ensures_neutral stays keeps neutral first) failed rest

theorem ensures_prepare {secret : Cluster.Secret} (reads : Reads runs nameSpace c config s) :
    Ensures (terms runs nameSpace c)
      (Backup.prepare (runs c).setting (runs c).host nameSpace config secret).run
      (IfOk fun prepared => Ready runs nameSpace c config prepared.2) s := by
  have stable (result : Except Failure (Tool × String)) : (terms runs nameSpace c).Stable
      (IfOk (fun prepared => Ready runs nameSpace c config prepared.2) result) :=
    Terms.stable_ifOk (fun prepared => Ready.stable prepared.2) result
  refine Ensures.bind_ok stable ((ensures_ensureRepository reads).weaken fun result t ready => ?_)
  cases result with
  | error failure => trivial
  | ok name =>
    have keeps (s : Annals κ) (e : Exchange Request) (t : Annals κ) (_ : Records nameSpace c s e t)
        (persists : Persists nameSpace s t) (ready : Ready runs nameSpace c config name s) :
        Ready runs nameSpace c config name t :=
      ⟨ready.1, ready.2.later persists⟩
    refine ensures_after stable (Ready.stable name) keeps (SetupPlan.perform_isNeutral _)
      (fun _ _ _ => trivial) (fun environment u ready => ?_) ready
    refine ensures_after stable (Ready.stable name) keeps (Tool.ensure_isNeutral _)
      (fun _ _ _ => trivial) (fun _ v ready => ?_) ready
    exact fun w later => Ready.stable name v w later ready

theorem ensures_recordRepositoryRun {policy : RetryPolicy} {name : String} {started : Instant}
    {took : Duration} {removed : Int} :
    Ensures (terms runs nameSpace c)
      (Status.recordRepositoryRun policy nameSpace name started took removed).run
      (fun _ _ => True) s := by
  let holding (object : Repository) (t : Annals κ) : Prop :=
    object.nameSpace = nameSpace ∧ object.name = name ∧
      ∃ r, t.store.find? .repository nameSpace name = some r ∧ r.spec = object.spec
  have nothing (result : Except Failure (Option Repository) × Bool) :
      (terms runs nameSpace c).Stable fun _ => True := fun _ _ _ => id
  refine Ensures.bind ((ensures_readChangeWrite (fun _ _ => True) (fun _ => holding)
    (fun _ _ _ _ => id) nothing ?reads (fun _ _ _ _ _ => trivial) ?writes
    (fun _ _ _ _ => trivial) ?sleeps trivial).weaken fun _ _ _ _ _ => trivial)
  case reads =>
    intro _ t _
    refine Ensures.ask fun u later reply v records => ?_
    refine ⟨records.guarantee (records.same trivial), fun w more => ?_⟩
    rcases reply with failure | _ | object
    · trivial
    · trivial
    · have found := records.get
      obtain ⟨r, found', spec⟩ := more.1.1 name object found
      exact ⟨(find?_key found).1, (find?_key found).2, r, found', spec⟩
  case writes =>
    -- The object may be stale, but a description never changes: a write that is accepted keeps it.
    intro _ object t held _
    refine Ensures.ask fun u later reply v records => ?_
    obtain ⟨inSpace, called, r, found, spec⟩ := held
    obtain ⟨r', found', spec'⟩ := later.1.1 name r found
    refine ⟨records.guarantee ?_, fun w _ => ?_⟩
    · obtain ⟨edited, same, served | ⟨unchanged, _⟩⟩ := records.1
      · let written := Repository.recordRun started took removed object
        have after : v.store = (edited.replace .repository written).2 := congrArg Prod.snd served
        rw [after]
        refine same.trans (replace_same fun old foundOld => accept_same_of_spec foundOld ?_)
        obtain ⟨r'', found'', spec''⟩ := same.found found'
        have here : edited.find? .repository written.nameSpace written.name = some r'' := by
          rw [show written.nameSpace = nameSpace from inSpace, show written.name = name from called,
            found'']
        obtain rfl := Option.some.inj (foundOld.symm.trans here)
        exact (spec''.trans (spec'.trans spec)).symm
      · exact unchanged ▸ same
    · cases reply <;> trivial
  case sleeps =>
    intro d _ t reply u _ records
    exact ⟨records.guarantee (records.same trivial), trivial⟩

theorem ensures_idle {α : Type} {a : Action α} (neutral : a.IsNeutral) :
    Ensures (terms runs nameSpace c) a.run (fun _ _ => True) s :=
  ensures_neutral (fun _ _ _ => id) (fun _ _ _ _ _ => id) neutral trivial

theorem ensures_then {α β : Type} {a : Action α} {f : α → Action β}
    (first : Ensures (terms runs nameSpace c) a.run (fun _ _ => True) s)
    (rest : ∀ x t, Ensures (terms runs nameSpace c) (f x).run (fun _ _ => True) t) :
    Ensures (terms runs nameSpace c) (a >>= f).run (fun _ _ => True) s := by
  refine Ensures.bind_ok (fun _ _ _ _ => id) (first.weaken fun result t _ => ?_)
  cases result with
  | ok x => exact rest x t
  | error failure => trivial

theorem ensures_runWith {secret : Cluster.Secret} {name : String} {time : Instant}
    (reads : Reads runs nameSpace c config s) :
    Ensures (terms runs nameSpace c)
      (Backup.runWith (runs c).setting (runs c).host nameSpace name time config secret).run
      (fun _ _ => True) s := by
  refine ensures_after (fun _ _ _ _ => id) (Reads.stable c config)
    (fun _ _ _ records _ reads => reads.records records) (.tell trivial) (fun _ _ _ => trivial)
    (fun start t reads => ?_) reads
  refine ensures_then (Ensures.lift (fun _ _ _ _ => id)
    ((ensures_prepare reads).weaken fun _ _ _ => trivial)) fun prepared t => ?_
  rcases prepared with failure | ⟨tool, repository⟩
  · exact ensures_idle (.bind (.tell trivial) fun _ => .bind (Backup.elapsedSince_isNeutral _)
      fun _ => .bind (Backup.pushMetrics_isNeutral _ _ _ _ _) fun _ => .throw failure)
  · refine ensures_then (ensures_idle (Backup.runGroups_isNeutral _ _ _ _ _ _)) fun outcome t => ?_
    refine ensures_then (ensures_idle (Backup.elapsedSince_isNeutral _)) fun took t => ?_
    rcases outcome with ⟨metrics, failure | removed⟩
    · exact ensures_idle (.bind (Backup.pushMetrics_isNeutral _ _ _ _ _) fun _ => .throw failure)
    · refine ensures_then (ensures_idle (Status.recordRun_isNeutral _ _ _ _ _)) fun _ t => ?_
      exact ensures_then ensures_recordRepositoryRun fun _ t =>
        ensures_idle (Backup.pushMetrics_isNeutral _ _ _ _ _)

theorem ensures_run (fresh : s.of c = []) :
    Ensures (terms runs nameSpace c) ((runs c).code nameSpace) (fun _ _ => True) s := by
  refine Ensures.bind_ok (fun _ _ _ _ => id) (Ensures.ask fun t later reply u records => ?_)
  refine ⟨records.guarantee (records.same trivial), fun v more => ?_⟩
  rcases reply with failure | _ | config
  · trivial
  · exact fun _ _ => trivial
  · have reads : Reads runs nameSpace c config v := by
      rw [Reads, of_eq_of_rely more, records.of_self, of_eq_of_rely later, fresh]
      rfl
    dsimp only
    by_cases paused : config.spec.paused = true
    · rw [if_pos paused]
      exact fun _ _ => trivial
    rw [if_neg paused]
    cases config.spec.validate with
    | error failure => exact ensures_idle (Backup.refuse_isNeutral _ _)
    | ok _ =>
      refine ensures_after (fun _ _ _ _ => id) (Reads.stable c config)
        (fun _ _ _ records _ reads => reads.records records) (.ask trivial) (fun _ _ _ => trivial)
        (fun secret t reads => ?_) reads
      cases secret with
      | none => exact ensures_idle (Backup.refuse_isNeutral _ _)
      | some secret => exact ensures_runWith reads

theorem along_of {trace : List (Exchange Request)}
    (along : Along (terms runs nameSpace c) trace s t) : t.of c = s.of c ++ trace := by
  induction trace generalizing s with
  | nil => simpa using of_eq_of_rely along
  | cons e rest ih =>
    obtain ⟨before, after, others, answered, along⟩ := along
    rw [ih along, answered.1.of_self, of_eq_of_rely others, List.append_assoc]
    rfl

theorem along_persists {trace : List (Exchange Request)} {name : String}
    (along : Along (terms runs nameSpace c) trace s t) (has : Has nameSpace name s) :
    Has nameSpace name t := by
  induction trace generalizing s with
  | nil => exact has.later along.1.1
  | cons e rest ih =>
    obtain ⟨before, after, others, answered, along⟩ := along
    exact ih along ((has.later others.1.1).later answered.2.1.1)

def begin (runs : κ → Run) (nameSpace : String) (store : Store) :
    System Request (Annals κ) (fun _ : κ => Except Failure Unit) where
  code c := (runs c).code nameSpace
  state := ⟨store, []⟩

end Annals

/-- What the run has exchanged takes it past its setup: it has read its configuration and its
secret, and has a repository to be recorded on. -/
def Run.IsPastSetup (run : Run) (nameSpace : String) (config : Configuration) (repository : String)
    (trace : List (Exchange Request)) : Prop :=
  ∃ secret start tool setup rest,
    trace = [⟨.get .configuration nameSpace run.name, .ok (some config)⟩,
        ⟨.secret nameSpace config.spec.backend.secretName, .ok (some secret)⟩, ⟨.now, start⟩]
      ++ setup ++ rest ∧
    Path (Backup.prepare run.setting run.host nameSpace config secret).run setup
      (.done (.ok (tool, repository)))

section

open Annals

variable {κ : Type v} [DecidableEq κ] {runs : κ → Run} {nameSpace : String} {store : Store}
  {y : System Request (Annals κ) fun _ : κ => Except Failure Unit} {c : κ} {config : Configuration}
  {repository : String}

theorem kept_begin : System.Kept (terms runs nameSpace) (fun _ _ _ => True)
    (begin runs nameSpace store) :=
  fun _ => ensures_run rfl

theorem founded_of_reaches (empty : ∀ name, store.find? .repository nameSpace name = none)
    (reaches : System.Reaches (Records nameSpace) (begin runs nameSpace store) y) :
    Founded runs nameSpace y.state := by
  refine System.Reaches.invariant System.fair_among (fun _ _ _ _ guaranteed => guaranteed.1.2)
    reaches kept_begin ?_
  intro name r found
  exact absurd ((empty name).symm.trans found) nofun

/-- A run that is past its setup has its repository from then on. -/
theorem has_of_past
    (reaches : System.Reaches (Records nameSpace) (begin runs nameSpace store) y)
    (past : (runs c).IsPastSetup nameSpace config repository (y.state.of c)) :
    repository = (runs c).repository config ∧ Has nameSpace repository y.state := by
  obtain ⟨trace, _, along⟩ := System.Reaches.along System.fair_among reaches kept_begin c
  obtain ⟨secret, start, tool, setup, rest, whole, path⟩ := past
  have own : y.state.of c = trace := along_of along
  rw [← own, whole, List.append_assoc] at along
  -- First the run reads, then it prepares, and what comes after that takes no repository away.
  obtain ⟨read, before, along⟩ := along.split
  obtain ⟨ready, during, after⟩ := along.split
  have reads : Reads runs nameSpace c config read := by
    rw [Reads, along_of before]
    rfl
  obtain ⟨named, has⟩ :=
    (ensures_prepare reads).along path during ready ((terms runs nameSpace c).rely_refl _)
  exact ⟨named, along_persists after has⟩

/-- In every history of runs and of edits between their requests, a run that is past its setup
is recorded on a repository that some run has made. Its backend is the one where that run put its
snapshots, so it is where this run puts them exactly if both are the same. -/
theorem recorded_backend (empty : ∀ name, store.find? .repository nameSpace name = none)
    (reaches : System.Reaches (Records nameSpace) (begin runs nameSpace store) y)
    (past : (runs c).IsPastSetup nameSpace config repository (y.state.of c)) :
    repository = (runs c).repository config ∧
    ∃ r, y.state.store.find? .repository nameSpace repository = some r ∧
      ∃ d made, Reads runs nameSpace d made y.state ∧
        Makes runs nameSpace d made repository y.state ∧
        r.spec.backend = (runs d).backend made ∧
        (r.spec.backend = (runs c).backend config ↔
          (runs d).backend made = (runs c).backend config) := by
  obtain ⟨named, r, found⟩ := has_of_past reaches past
  obtain ⟨d, made, reads, makes, backend⟩ := founded_of_reaches empty reaches repository r found
  exact ⟨named, r, found, d, made, reads, makes, backend, by rw [backend]⟩

end

namespace Relocation

def site (bucket : String) : Configuration :=
  { metadata := Cluster.Metadata.named "apps" "web"
    spec := {
      target := some { kind := "Deployment", name := "web" }
      backend := { gcs := some ⟨bucket, ""⟩, secretName := "keys" }
      autoPath := .off } }

def keys : Cluster.Secret :=
  { metadata := Cluster.Metadata.named "apps" "keys"
    bytes := some [(Environment.passwordKey, [])] }

def runs (_ : Bool) : Run :=
  ⟨⟨{}, .conflict⟩, Host.derive .deployment "web" "web-0" "node", "web", ⟨0, 0⟩⟩

/-- The configuration has another bucket from the second run on. -/
def edit (later : Bool) (s : Store) : Store :=
  if later then (s.accept .configuration (site "new")).2 else s

def serve {β : Type} (later : Bool) (r : Request β) (s : Annals Bool) : β × Annals Bool :=
  let (reply, store) := Store.serve Store.quiet r (edit later s.store)
  (reply, ⟨store, s.log ++ [(later, ⟨r, reply⟩)]⟩)

theorem records_serve {β : Type} (later : Bool) (r : Request β) (s : Annals Bool) :
    Annals.Records "apps" later s ⟨r, (serve later r s).1⟩ (serve later r s).2 := by
  refine ⟨⟨edit later s.store, ?_, .inl (honest_serve quiet r _)⟩, rfl⟩
  cases later with
  | false => exact .refl _
  | true => exact accept_same (by decide) _

/-- Both runs see to the repository, one after the other. -/
def history : System Request (Annals Bool) (fun _ : Bool => Except Failure Unit) :=
  (Annals.begin runs "apps" (((Store.accept {} .configuration (site "old")).2).putSecret keys)).play
    serve [false, false, false, false, false, false, false, true, true, true, true, true, true]

theorem isPastSetup : (runs true).IsPastSetup "apps" (Store.withVersion 3 (site "new")) "default"
    (history.state.of true) :=
  ⟨keys, ⟨0⟩, _, _, [], rfl, follow_path (serve true) 3 _ history.state⟩

end Relocation

theorem recorded_backend_relocated : ∃ r,
    Relocation.history.state.store.find? .repository "apps" "default" = some r ∧
      r.spec.backend.gcs = some ⟨"old", ""⟩ ∧
      r.spec.backend ≠
        (Relocation.runs true).backend (Store.withVersion 3 (Relocation.site "new")) := by
  obtain ⟨_, r, found, _⟩ := recorded_backend (y := Relocation.history) (fun _ => rfl)
    (System.play_reaches Relocation.records_serve _ _) Relocation.isPastSetup
  have bucket : (Relocation.history.state.store.find? .repository "apps" "default").map
      (·.spec.backend.gcs) = some (some ⟨"old", ""⟩) := by rfl
  rw [found] at bucket
  have old : r.spec.backend.gcs = some ⟨"old", ""⟩ := Option.some.inj bucket
  refine ⟨r, found, old, fun same => ?_⟩
  rw [same] at old
  exact absurd old (by decide)

end ClusterBackup
