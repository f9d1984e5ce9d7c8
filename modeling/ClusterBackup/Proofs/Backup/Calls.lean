import ClusterBackup.Proofs.Backup.Course
import ClusterBackup.Proofs.Store.Answers

/-! What a run asks of the tool, from its start to its end.

A run that is not set up asks nothing. One that is set up sees to the repository, and then
takes its groups up to the first that fails. -/

set_option autoImplicit false

namespace ClusterBackup.Backup

open Program Cluster Simulation

section

variable (host : Host) (config : Configuration) (tool : Tool) (probe create : Except Failure String)
  (shares : List Share)

def ensureCalls : List (Invocation × Except Failure String) :=
  (invoking tool ["snapshots", "--json"], probe) :: match probe with
    | .ok _ => []
    | .error _ => [(invoking tool ["init"], create)]

/-- The failure to make the repository. -/
def unmade? : Option Failure :=
  match probe, create with
  | .error _, .error failure => some failure
  | _, _ => none

def callsOf : List (Invocation × Except Failure String) :=
  ensureCalls tool probe create ++ match unmade? probe create with
    | some _ => []
    | none => shares.flatMap (·.calls host config tool)

def eventsOf : List Event :=
  match unmade? probe create with
  | some failure => [refusal config failure]
  | none => shares.flatMap (·.events host config)

end

variable {setting : Setting} {host : Host} {nameSpace name : String} {time : Instant}
  {config : Configuration} {secret : Secret} {trace : List (Exchange Request)}
  {result : Except Failure Unit}

theorem setUp_touches (setting : Setting) (host : Host) (nameSpace : String)
    (config : Configuration) (secret : Secret) :
    (setUp setting host nameSpace config secret).Touches
      [.reading .repository, .writing .repository, .files] :=
  .bind ((ensureRepository_touches host nameSpace config).mono (by decide)) fun _ =>
    .bind ((SetupPlan.perform_touches _).mono (by decide)) fun _ => .pure _

theorem conclude_touches (setting : Setting) (host : Host) (nameSpace name : String)
    (time : Instant) (repository : String) (took : Duration) (removed : Int) (metrics : Metrics) :
    (conclude setting host nameSpace name time repository took removed metrics).Touches
      [.reading .configuration, .writing .configuration, .reading .repository,
        .writing .repository, .clock, .metrics] :=
  .bind ((Status.recordRun_touches _ _ _ _ _).mono (by decide)) fun _ =>
    .bind ((Status.recordRepositoryRun_touches _ _ _ _ _ _).mono (by decide)) fun _ =>
      (pushMetrics_touches _ _ _ _ _).mono (by decide)

/-- The run has read its secret, and its setup has given this environment. -/
def IsSetUp (setting : Setting) (host : Host) (nameSpace : String) (config : Configuration)
    (environment : Environment) (trace : List (Exchange Request)) : Prop :=
  ∃ secret start setup repository rest,
    trace = ⟨.secret nameSpace config.spec.backend.secretName, .ok (some secret)⟩ ::
      ⟨.now, start⟩ :: (setup ++ rest) ∧
    Path (setUp setting host nameSpace config secret).run setup
      (.done (.ok (environment, repository)))

theorem invocation_probe (tool : Tool) :
    tool.invocation Tool.probe = invoking tool ["snapshots", "--json"] := rfl

theorem invocation_create (tool : Tool) : tool.invocation Tool.create = invoking tool ["init"] := rfl

theorem of_ensure {tool : Tool} {made : Except Failure Bool}
    (path : Path tool.ensure.run trace (.done made)) :
    ∃ probe create, toolCalls trace = ensureCalls tool probe create ∧
      ∀ failure, made = .error failure ↔ unmade? probe create = some failure := by
  obtain ⟨probe, first, rest, rfl, probed, going⟩ := Action.of_attempt_bind path
  obtain rfl := Action.of_ask probed
  rcases probe with failure | output
  · rcases Path.of_bind_ok going with
      ⟨refused, rfl, broken⟩ | ⟨output, second, rest, rfl, asked, ended⟩
    · obtain rfl := Action.of_ask broken
      exact ⟨.error failure, .error refused,
        by simp [toolCall?, ensureCalls, invocation_probe, invocation_create], by simp [unmade?]⟩
    · obtain rfl := Action.of_ask asked
      obtain ⟨rfl, rfl⟩ := Path.of_done ended
      exact ⟨.error failure, .ok output,
        by simp [toolCall?, ensureCalls, invocation_probe, invocation_create], by simp [unmade?]⟩
  · obtain ⟨rfl, rfl⟩ := Path.of_done going
    exact ⟨.ok output, .ok output, by simp [toolCall?, ensureCalls, invocation_probe],
      by simp [unmade?]⟩

/-- What a run does with its tool, from the outcomes of its calls. -/
structure Performed (host : Host) (config : Configuration) (tool : Tool)
    (probe create : Except Failure String) (shares : List Share) (trace : List (Exchange Request))
    (result : Except Failure Unit) : Prop where
  calls : toolCalls trace = callsOf host config tool probe create shares
  events : told trace = eventsOf host config probe create shares
  failed : ∀ failure, (unmade? probe create <|> shares.findSome? (·.failure?)) = some failure →
    result = .error failure
  groups : unmade? probe create = none → UntilFailure config.spec.groups shares ∧
    ∃ earlier work later metrics, trace = earlier ++ (work ++ later) ∧
      Path (runGroups host config tool config.spec.groups {} 0).run work
        (.done (.ok (metrics, outcome 0 shares)))

theorem performed_of_unmade {start now : Duration} {environment : Environment}
    {repository : String} {setup asking closing : List (Exchange Request)} {failure : Failure}
    (done : Path (setUp setting host nameSpace config secret).run setup
      (.done (.ok (environment, repository))))
    (refused : Path (Tool.ofOptions environment setting.options).ensure.run asking
      (.done (.error failure)))
    (silent : toolCalls closing = [] ∧ told closing = []) :
    ∃ probe create, Performed host config (Tool.ofOptions environment setting.options) probe create
      [] (⟨.now, start⟩ :: (setup ++ (asking ++
        ⟨.publish (refusal config failure), ()⟩ :: ⟨.now, now⟩ :: closing))) (.error failure) := by
  obtain ⟨probe, create, called, made⟩ := of_ensure refused
  have unmade : unmade? probe create = some failure := (made failure).mp rfl
  have unasked := Touches.silent (setUp_touches ..) done (by decide) (by decide)
  have unsaid := Touches.told_eq_nil (Tool.ensure_touches _) refused (by decide)
  refine ⟨probe, create, ?calls, ?events, by simp [unmade], fun ready => ?_⟩
  case calls =>
    simp [toolCall?, unasked, called, silent, callsOf, unmade]
  case events =>
    simp [event?, unasked, unsaid, silent, eventsOf, unmade]
  rw [unmade] at ready
  cases ready

theorem performed_of_ready {start now : Duration} {tool : Tool} {repository : String}
    {setup work closing : List (Exchange Request)} {metrics : Metrics} {done : Except Failure Int}
    (prepared : Course.Prepared setting host nameSpace config secret setup (.ok (tool, repository)))
    (working : Path (runGroups host config tool config.spec.groups {} 0).run work
      (.done (.ok (metrics, done))))
    (silent : toolCalls closing = [] ∧ told closing = [])
    (failed : ∀ failure, done = .error failure → result = .error failure) :
    ∃ environment first asking, setup = first ++ asking ∧
      Path (setUp setting host nameSpace config secret).run first
        (.done (.ok (environment, repository))) ∧
      ∃ probe create shares, Performed host config (Tool.ofOptions environment setting.options)
        probe create shares (⟨.now, start⟩ :: (setup ++ (work ++ ⟨.now, now⟩ :: closing)))
        result := by
  cases prepared with
  | @ready first asking environment _ made setting ensured =>
    obtain ⟨probe, create, called, unmade⟩ := of_ensure ensured
    have unasked := Touches.silent (setUp_touches ..) setting (by decide) (by decide)
    have unsaid := Touches.told_eq_nil (Tool.ensure_touches _) ensured (by decide)
    obtain ⟨shares, metrics, groups, same, worked, said⟩ := of_runGroups working
    obtain ⟨rfl, rfl⟩ := Prod.mk.inj (Except.ok.inj same)
    have ready : unmade? probe create = none :=
      Option.eq_none_iff_forall_ne_some.mpr fun failure some =>
        absurd ((unmade failure).mpr some) nofun
    refine ⟨environment, first, asking, rfl, setting, probe, create, shares,
      ?calls, ?events, fun failure last => ?_, fun _ => ⟨groups, ?_⟩⟩
    case calls =>
      simp [toolCall?, unasked, called, worked, silent, callsOf, ready]
    case events =>
      simp [event?, unasked, unsaid, said, silent, eventsOf, ready]
    · have stopped : shares.findSome? (·.failure?) = some failure := by simpa [ready] using last
      exact failed failure (by rw [outcome, stopped])
    · exact ⟨⟨.now, start⟩ :: (first ++ asking), work, ⟨.now, now⟩ :: closing, metrics, rfl,
        working⟩

/-- A run that has its secret fails in its setup, or does all that a tool is needed for. -/
theorem of_secured
    (course : Course.Secured setting host nameSpace name time config secret trace result) :
    ∃ start setup rest, trace = ⟨.now, start⟩ :: (setup ++ rest) ∧
      ((∃ failure, Path (setUp setting host nameSpace config secret).run setup
          (.done (.error failure)) ∧ result = .error failure ∧ toolCalls trace = []) ∨
        ∃ environment repository, Path (setUp setting host nameSpace config secret).run setup
            (.done (.ok (environment, repository))) ∧
          ∃ probe create shares, Performed host config (Tool.ofOptions environment setting.options)
            probe create shares trace result) := by
  -- Sending metrics asks nothing of the tool, so the calls are those of the setup and the groups.
  cases course with
  | @unprepared start _ setup _ failure prepared pushing =>
    have silent := Touches.silent (pushMetrics_touches ..) pushing (by decide) (by decide)
    cases prepared with
    | failed broken =>
      have unasked := Touches.silent (setUp_touches ..) broken (by decide) (by decide)
      refine ⟨start, setup, _, rfl, .inl ⟨failure, broken, rfl, ?_⟩⟩
      simp [toolCall?, unasked, silent]
    | @unmade setup _ environment repository _ done refused =>
      obtain ⟨probe, create, performed⟩ := performed_of_unmade done refused silent
      rw [List.append_assoc]
      exact ⟨start, setup, _, rfl,
        .inr ⟨environment, repository, done, probe, create, [], performed⟩⟩
  | @stopped start _ _ _ _ _ repository _ _ prepared working pushing =>
    have silent := Touches.silent (pushMetrics_touches ..) pushing (by decide) (by decide)
    obtain ⟨environment, first, asking, rfl, done, performed⟩ :=
      performed_of_ready prepared working silent fun _ same => by cases same; rfl
    exact ⟨start, first, _, by rw [List.append_assoc],
      .inr ⟨environment, repository, done, performed⟩⟩
  | @worked start _ _ _ _ _ repository _ _ _ prepared working concluding =>
    have silent := Touches.silent (conclude_touches ..) concluding (by decide) (by decide)
    obtain ⟨environment, first, asking, rfl, done, performed⟩ :=
      performed_of_ready prepared working silent fun _ same => by cases same
    exact ⟨start, first, _, by rw [List.append_assoc],
      .inr ⟨environment, repository, done, performed⟩⟩

theorem Performed.cons {tool : Tool} {probe create : Except Failure String} {shares : List Share}
    {e : Exchange Request} (performed : Performed host config tool probe create shares trace result)
    (uncalled : toolCall? e = none) (untold : event? e = none) :
    Performed host config tool probe create shares (e :: trace) result where
  calls := by simp [uncalled, performed.calls]
  events := by simp [untold, performed.events]
  failed := performed.failed
  groups ready := by
    obtain ⟨groups, earlier, work, later, metrics, rfl, working⟩ := performed.groups ready
    exact ⟨groups, e :: earlier, work, later, metrics, rfl, working⟩

theorem IsSetUp.outcome_eq {environment : Environment} {start : Duration}
    {setup rest : List (Exchange Request)} {outcome : Except Failure (Environment × String)}
    (isSetUp : IsSetUp setting host nameSpace config environment
      (⟨.secret nameSpace config.spec.backend.secretName, .ok (some secret)⟩ ::
        ⟨.now, start⟩ :: (setup ++ rest)))
    (path : Path (setUp setting host nameSpace config secret).run setup (.done outcome)) :
    ∃ repository, outcome = .ok (environment, repository) := by
  obtain ⟨secret', start', setup', repository, rest', same, path'⟩ := isSetUp
  obtain ⟨read, timed⟩ := List.cons.inj same
  cases read
  obtain ⟨_, equal⟩ := List.cons.inj timed
  obtain ⟨_, _, equal⟩ := Path.unique path path' equal
  exact ⟨repository, equal⟩

/-- The calls of a run are those of its groups in order, after the repository was seen to, and up
to the first group that fails. A run that is not set up makes none. -/
theorem runOnce_calls (unpaused : config.spec.paused = false)
    (valid : config.spec.validate = .ok ())
    (path : Path (runOnce setting host nameSpace name time).run
      (⟨.get .configuration nameSpace name, .ok (some config)⟩ :: trace) (.done result)) :
    ((∀ environment, ¬ IsSetUp setting host nameSpace config environment trace) →
      toolCalls trace = [] ∧ ∃ failure, result = .error failure) ∧
    ∀ environment, IsSetUp setting host nameSpace config environment trace →
      ∃ probe create shares, Performed host config (Tool.ofOptions environment setting.options)
        probe create shares trace result := by
  cases Course.of_runOnce path with
  | paused paused =>
    rw [unpaused] at paused
    cases paused
  | due _ course =>
    cases course with
    | invalid broken =>
      rw [valid] at broken
      cases broken
    | unread =>
      refine ⟨fun _ => ⟨rfl, _, rfl⟩, ?_⟩
      rintro environment ⟨secret, start, setup, repository, rest, same, _⟩
      cases same
    | missing =>
      refine ⟨fun _ => ⟨rfl, _, rfl⟩, ?_⟩
      rintro environment ⟨secret, start, setup, repository, rest, same, _⟩
      cases same
    | @secured secret rest _ _ course =>
      obtain ⟨start, setup, rest, rfl, done⟩ := of_secured course
      rcases done with ⟨failure, broken, rfl, uncalled⟩ | ⟨environment, repository, done, performed⟩
      · refine ⟨fun _ => ⟨by simpa [toolCall?] using uncalled, failure, rfl⟩, ?_⟩
        intro environment isSetUp
        obtain ⟨_, impossible⟩ := isSetUp.outcome_eq broken
        cases impossible
      · refine ⟨fun unset => absurd ⟨secret, start, setup, repository, rest, rfl, done⟩
          (unset environment), ?_⟩
        intro other isSetUp
        obtain ⟨_, same⟩ := isSetUp.outcome_eq done
        cases same
        -- The reading of the secret is neither a call nor an event.
        obtain ⟨probe, create, shares, performed⟩ := performed
        exact ⟨probe, create, shares, performed.cons rfl rfl⟩

namespace Halting

/-- A configuration of two groups, the first of them with a policy. -/
def paired : Configuration :=
  { metadata := Metadata.named "apps" "web"
    spec := {
      target := some { kind := "Deployment", name := "web" }
      groups := [
        { path := "/etc", tags := ["night", "web"]
          retention := { last := some 1, weekly := some 0, tags := ["gold"], prune := true } },
        { path := "/var" }]
      backend := { gcs := some ⟨"bucket", ""⟩, secretName := "keys" }
      autoPath := .off } }

def keys : Secret :=
  { metadata := Metadata.named "apps" "keys"
    bytes := some [(Environment.passwordKey, [])] }

def web : Host := Host.derive .deployment "web" "web-0" "node"

/-- The tool finds no repository, and cannot forget anything. -/
def hampered {β : Type} : Request β → Unit → β × Unit
  | .get .configuration _ _, s => (.ok (some paired), s)
  | .secret _ _, s => (.ok (some keys), s)
  | .run i, s =>
    (if i.command = "snapshots" ∨ i.command = "forget" then .error (.tool i.command "denied")
      else .ok "", s)
  | r, s => (Store.quiet r, s)

def exchanged : List (Exchange Request) :=
  (follow hampered 40 (runOnce ⟨{}, .conflict⟩ web "apps" "web" ⟨0, 0⟩).run ()).1

end Halting

section

open Halting

theorem runOnce_calls_halting : ∃ environment probe create shares,
    Performed web paired (Tool.ofOptions environment {}) probe create shares exchanged.tail
      (.error (.tool "forget" "denied")) ∧
    (toolCalls exchanged).map (·.1.arguments) = [
      ["snapshots", "--json", "--cache-dir", "/tmp/restic-cache"],
      ["init", "--cache-dir", "/tmp/restic-cache"],
      ["backup", "/etc", "--host", "web", "--tag", "night", "--tag", "web",
        "--cache-dir", "/tmp/restic-cache"],
      ["forget", "--keep-last", "1", "--keep-tag", "gold", "--prune", "--host", "web",
        "--path", "/etc", "--cache-dir", "/tmp/restic-cache"]] := by
  have path : Path (runOnce ⟨{}, .conflict⟩ web "apps" "web" ⟨0, 0⟩).run
      (⟨.get .configuration "apps" "web", .ok (some paired)⟩ :: exchanged.tail)
      (.done (.error (.tool "forget" "denied"))) :=
    follow_path hampered 40 _ ()
  have setUp : ∃ environment,
      IsSetUp ⟨{}, .conflict⟩ web "apps" paired environment exchanged.tail :=
    ⟨_, keys, ⟨0⟩, _, _, _, rfl, follow_path hampered 9 _ ()⟩
  obtain ⟨environment, isSetUp⟩ := setUp
  obtain ⟨probe, create, shares, performed⟩ := (runOnce_calls rfl rfl path).2 environment isSetUp
  exact ⟨environment, probe, create, shares, performed, by rfl⟩

end

end ClusterBackup.Backup

/-! ### Events

The reasons of the events that a run tells. -/

namespace ClusterBackup

open Program

namespace Backup

def runReasons : List String :=
  ["FailedSetup", "SuccessfulBackup", "FailedToBackup", "FailedToRetention"]

/-- All that is told has such a reason. -/
def TellsOfRun (trace : List (Exchange Request)) : Prop :=
  ∀ event ∈ told trace, event.reason ∈ runReasons

theorem TellsOfRun.of_told_eq_nil {trace : List (Exchange Request)} (silent : told trace = []) :
    TellsOfRun trace := by
  intro event member
  rw [silent] at member
  exact absurd member List.not_mem_nil

theorem TellsOfRun.append {first second : List (Exchange Request)} (left : TellsOfRun first)
    (right : TellsOfRun second) : TellsOfRun (first ++ second) := by
  intro event member
  rw [told_append] at member
  rcases List.mem_append.mp member with member | member
  · exact left event member
  · exact right event member

theorem TellsOfRun.quiet {e : Exchange Request} {trace : List (Exchange Request)}
    (silent : event? e = none) (rest : TellsOfRun trace) : TellsOfRun (e :: trace) := by
  intro event member
  rw [told_cons, silent] at member
  exact rest event member

theorem TellsOfRun.refusal (config : Configuration) (failure : Failure)
    {trace : List (Exchange Request)} (rest : TellsOfRun trace) :
    TellsOfRun (⟨.publish (Backup.refusal config failure), ()⟩ :: trace) := by
  intro event member
  rcases List.mem_cons.mp member with rfl | member
  · simp [Backup.refusal, runReasons]
  · exact rest event member

theorem Share.reason_mem (host : Host) (config : Configuration) (s : Share) :
    ∀ event ∈ s.events host config, event.reason ∈ runReasons := by
  intro event member
  rcases List.mem_cons.mp member with rfl | member
  · unfold backupEvent
    split <;> simp [runReasons]
  · unfold forgetEvent? at member
    split at member
    · obtain rfl := List.mem_singleton.mp member
      simp [runReasons]
    · exact absurd member List.not_mem_nil

variable {setting : Setting} {host : Host} {nameSpace name : String} {time : Instant}
  {config : Configuration} {secret : Cluster.Secret} {trace : List (Exchange Request)}
  {result : Except Failure Unit}

theorem tellsOfRun_runGroups {tool : Tool} {groups : List FileGroup} {metrics : Metrics}
    {removed : Int} {done : Except Failure (Metrics × Except Failure Int)}
    (path : Path (runGroups host config tool groups metrics removed).run trace (.done done)) :
    TellsOfRun trace := by
  obtain ⟨shares, _, _, _, _, said⟩ := of_runGroups path
  intro event member
  rw [said] at member
  obtain ⟨share, _, member⟩ := List.mem_flatMap.mp member
  exact share.reason_mem host config event member

theorem tellsOfRun_of_secured
    (course : Course.Secured setting host nameSpace name time config secret trace result) :
    TellsOfRun trace := by
  have prepared {setup : List (Exchange Request)} {outcome : Except Failure (Tool × String)}
      (course : Course.Prepared setting host nameSpace config secret setup outcome) :
      TellsOfRun setup := by
    refine .of_told_eq_nil ?_
    cases course with
    | failed broken => exact Touches.told_eq_nil (setUp_touches ..) broken (by decide)
    | unmade done refused =>
      rw [told_append, Touches.told_eq_nil (setUp_touches ..) done (by decide),
        Touches.told_eq_nil (Tool.ensure_touches _) refused (by decide), List.append_nil]
    | ready done made =>
      rw [told_append, Touches.told_eq_nil (setUp_touches ..) done (by decide),
        Touches.told_eq_nil (Tool.ensure_touches _) made (by decide), List.append_nil]
  have pushes {metrics : Metrics} {pushed : List (Exchange Request)}
      (path : Path (pushMetrics setting host nameSpace name metrics).run pushed
        (.done (.ok ()))) : TellsOfRun pushed :=
    .of_told_eq_nil (Touches.told_eq_nil (pushMetrics_touches ..) path (by decide))
  have timed (time : Duration) {rest : List (Exchange Request)} (tells : TellsOfRun rest) :
      TellsOfRun (⟨.now, time⟩ :: rest) := .quiet rfl tells
  cases course with
  | unprepared course pushing =>
    exact timed _ ((prepared course).append (.refusal _ _ (timed _ (pushes pushing))))
  | stopped course working pushing =>
    exact timed _ ((prepared course).append
      ((tellsOfRun_runGroups working).append (timed _ (pushes pushing))))
  | worked course working concluding =>
    have silent : TellsOfRun _ :=
      .of_told_eq_nil (Touches.told_eq_nil (conclude_touches ..) concluding (by decide))
    exact timed _ ((prepared course).append
      ((tellsOfRun_runGroups working).append (timed _ silent)))

/-- Whatever happens in a run, it tells events of these reasons only. -/
theorem tellsOfRun_runOnce
    (path : Path (runOnce setting host nameSpace name time).run trace (.done result)) :
    TellsOfRun trace := by
  have silent : TellsOfRun [] := .of_told_eq_nil rfl
  cases Course.of_runOnce path with
  | unread | absent | paused => exact silent.quiet rfl
  | due _ course =>
    refine .quiet rfl ?_
    cases course with
    | invalid => exact silent.refusal _ _
    | unread => exact silent.quiet rfl
    | missing => exact .quiet rfl (silent.refusal _ _)
    | secured _ course => exact .quiet rfl (tellsOfRun_of_secured course)

end Backup

end ClusterBackup
