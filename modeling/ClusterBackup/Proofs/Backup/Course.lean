import ClusterBackup.Proofs.Backup.Groups

/-! The courses that a run can take, with what is exchanged on each of them. -/

set_option autoImplicit false

namespace ClusterBackup.Backup

open Program Cluster

variable (setting : Setting) (host : Host) (nameSpace name : String) (time : Instant)

def refusal (config : Configuration) (failure : Failure) : Event :=
  { object := config.reference, warning := true, reason := "FailedSetup", action := "Setup"
    note := some failure.message }

/-- The setup of a run, before the tool is asked for anything: its environment, and the name of
the repository object. -/
def setUp (config : Configuration) (secret : Secret) : Action (Environment × String) := do
  let repository ← ensureRepository host nameSpace config
  let environment ← (Environment.plan config.spec.backend secret setting.options.scratchDirectory
    (host.path config.spec.autoPath)).perform
  return (environment, repository)

/-- A run whose groups are all done is recorded, on the configuration and on the repository. -/
def conclude (repository : String) (took : Duration) (removed : Int) (metrics : Metrics) :
    Action Unit := do
  let _ ← Status.recordRun setting.policy nameSpace name time took
  let _ ← Status.recordRepositoryRun setting.policy nameSpace repository time took removed
  pushMetrics setting host nameSpace name (metrics.finish true took)

namespace Course

/-- The setup fails, or the repository cannot be made, or both are done. -/
inductive Prepared (config : Configuration) (secret : Secret) :
    List (Exchange Request) → Except Failure (Tool × String) → Prop where
  | failed {trace : List (Exchange Request)} {failure : Failure} :
      Path (setUp setting host nameSpace config secret).run trace (.done (.error failure)) →
      Prepared config secret trace (.error failure)
  | unmade {setup asking : List (Exchange Request)} {environment : Environment}
      {repository : String} {failure : Failure} :
      Path (setUp setting host nameSpace config secret).run setup
        (.done (.ok (environment, repository))) →
      Path (Tool.ofOptions environment setting.options).ensure.run asking
        (.done (.error failure)) →
      Prepared config secret (setup ++ asking) (.error failure)
  | ready {setup asking : List (Exchange Request)} {environment : Environment}
      {repository : String} {made : Bool} :
      Path (setUp setting host nameSpace config secret).run setup
        (.done (.ok (environment, repository))) →
      Path (Tool.ofOptions environment setting.options).ensure.run asking (.done (.ok made)) →
      Prepared config secret (setup ++ asking)
        (.ok (Tool.ofOptions environment setting.options, repository))

/-- The end of a run whose groups are all done: a status is not recorded, or both are. -/
inductive Concluded (repository : String) (took : Duration) (removed : Int) :
    List (Exchange Request) → Except Failure Unit → Prop where
  | uncounted {counting : List (Exchange Request)} {failure : Failure} :
      Path (Status.recordRun setting.policy nameSpace name time took).run counting
        (.done (.error failure)) →
      Concluded repository took removed counting (.error failure)
  | unrecorded {counting recording : List (Exchange Request)} {found : Option Configuration}
      {failure : Failure} :
      Path (Status.recordRun setting.policy nameSpace name time took).run counting
        (.done (.ok found)) →
      Path (Status.recordRepositoryRun setting.policy nameSpace repository time took removed).run
        recording (.done (.error failure)) →
      Concluded repository took removed (counting ++ recording) (.error failure)
  | recorded {counting recording pushed : List (Exchange Request)} {found : Option Configuration}
      {stored : Option Repository} {metrics : Metrics} :
      Path (Status.recordRun setting.policy nameSpace name time took).run counting
        (.done (.ok found)) →
      Path (Status.recordRepositoryRun setting.policy nameSpace repository time took removed).run
        recording (.done (.ok stored)) →
      Path (pushMetrics setting host nameSpace name metrics).run pushed (.done (.ok ())) →
      Concluded repository took removed (counting ++ (recording ++ pushed)) (.ok ())

/-- A run with its secret: it is not prepared, or a group fails, or its groups are all done. -/
inductive Secured (config : Configuration) (secret : Secret) :
    List (Exchange Request) → Except Failure Unit → Prop where
  | unprepared {start now : Duration} {setup pushed : List (Exchange Request)} {failure : Failure} :
      Prepared setting host nameSpace config secret setup (.error failure) →
      Path (pushMetrics setting host nameSpace name
        (({} : Metrics).finish false ⟨now.nanos - start.nanos⟩)).run pushed (.done (.ok ())) →
      Secured config secret
        (⟨.now, start⟩ ::
          (setup ++ ⟨.publish (refusal config failure), ()⟩ :: ⟨.now, now⟩ :: pushed))
        (.error failure)
  | stopped {start now : Duration} {setup work pushed : List (Exchange Request)} {tool : Tool}
      {repository : String} {metrics : Metrics} {failure : Failure} :
      Prepared setting host nameSpace config secret setup (.ok (tool, repository)) →
      Path (runGroups host config tool config.spec.groups {} 0).run work
        (.done (.ok (metrics, .error failure))) →
      Path (pushMetrics setting host nameSpace name
        (metrics.finish false ⟨now.nanos - start.nanos⟩)).run pushed (.done (.ok ())) →
      Secured config secret (⟨.now, start⟩ :: (setup ++ (work ++ ⟨.now, now⟩ :: pushed)))
        (.error failure)
  | worked {start now : Duration} {setup work closing : List (Exchange Request)} {tool : Tool}
      {repository : String} {metrics : Metrics} {removed : Int} {result : Except Failure Unit} :
      Prepared setting host nameSpace config secret setup (.ok (tool, repository)) →
      Path (runGroups host config tool config.spec.groups {} 0).run work
        (.done (.ok (metrics, .ok removed))) →
      Path (conclude setting host nameSpace name time repository ⟨now.nanos - start.nanos⟩ removed
        metrics).run closing (.done result) →
      Secured config secret (⟨.now, start⟩ :: (setup ++ (work ++ ⟨.now, now⟩ :: closing))) result

/-- A run of a configuration that is not paused. -/
inductive Due (config : Configuration) : List (Exchange Request) → Except Failure Unit → Prop where
  | invalid {failure : Failure} : config.spec.validate = .error failure →
      Due config [⟨.publish (refusal config failure), ()⟩] (.error failure)
  | unread {failure : Failure} : config.spec.validate = .ok () →
      Due config [⟨.secret nameSpace config.spec.backend.secretName, .error failure⟩]
        (.error failure)
  | missing : config.spec.validate = .ok () →
      Due config [⟨.secret nameSpace config.spec.backend.secretName, .ok none⟩,
          ⟨.publish (refusal config (.missingSecret nameSpace config.spec.backend.secretName)), ()⟩]
        (.error (.missingSecret nameSpace config.spec.backend.secretName))
  | secured {secret : Secret} {rest : List (Exchange Request)} {result : Except Failure Unit} :
      config.spec.validate = .ok () →
      Secured setting host nameSpace name time config secret rest result →
      Due config (⟨.secret nameSpace config.spec.backend.secretName, .ok (some secret)⟩ :: rest)
        result

/-- A run: its configuration is not read, or gone, or paused, or the run goes on. -/
inductive Whole : List (Exchange Request) → Except Failure Unit → Prop where
  | unread {failure : Failure} :
      Whole [⟨.get .configuration nameSpace name, .error failure⟩] (.error failure)
  | absent : Whole [⟨.get .configuration nameSpace name, .ok none⟩] (.ok ())
  | paused {config : Configuration} : config.spec.paused = true →
      Whole [⟨.get .configuration nameSpace name, .ok (some config)⟩] (.ok ())
  | due {config : Configuration} {rest : List (Exchange Request)} {result : Except Failure Unit} :
      config.spec.paused = false → Due setting host nameSpace name time config rest result →
      Whole (⟨.get .configuration nameSpace name, .ok (some config)⟩ :: rest) result

variable {setting host nameSpace name time} {trace : List (Exchange Request)}
  {config : Configuration} {secret : Secret} {result : Except Failure Unit}

theorem of_refuse {α : Type} {failure : Failure} {result : Except Failure α}
    (path : Path (refuse config failure : Action α).run trace (.done result)) :
    trace = [⟨.publish (refusal config failure), ()⟩] ∧ result = .error failure := by
  obtain ⟨_, rest, rfl, ended⟩ := Action.of_tell_bind path
  obtain ⟨rfl, rfl⟩ := Path.of_done ended
  exact ⟨rfl, rfl⟩

theorem of_pushMetrics {metrics : Metrics}
    (path : Path (pushMetrics setting host nameSpace name metrics).run trace (.done result)) :
    result = .ok () := by
  unfold pushMetrics at path
  split at path
  · obtain ⟨_, rfl, _⟩ := Action.of_tell path
    rfl
  · exact (Path.of_done path).2

theorem of_prepare {result : Except Failure (Tool × String)}
    (path : Path (prepare setting host nameSpace config secret).run trace (.done result)) :
    Prepared setting host nameSpace config secret trace result := by
  rcases Path.of_bind_ok path with
    ⟨failure, rfl, broken⟩ | ⟨repository, first, rest, rfl, found, going⟩
  · exact .failed (Path.bind_error broken)
  rcases Path.of_bind_ok going with
    ⟨failure, rfl, broken⟩ | ⟨environment, second, rest, rfl, done, going⟩
  · exact .failed (Path.bind_ok found (Path.bind_error broken))
  have setup : Path (setUp setting host nameSpace config secret).run (first ++ second)
      (.done (.ok (environment, repository))) := by
    have path : Path (setUp setting host nameSpace config secret).run (first ++ (second ++ []))
        (.done (.ok (environment, repository))) :=
      Path.bind_ok found (Path.bind_ok done (.here _))
    rwa [List.append_nil] at path
  rcases Path.of_bind_ok going with
    ⟨failure, rfl, broken⟩ | ⟨made, third, rest, rfl, asked, ended⟩
  · rw [← List.append_assoc]
    exact .unmade setup broken
  · obtain ⟨rfl, rfl⟩ := Path.of_done ended
    rw [List.append_nil, ← List.append_assoc]
    exact .ready setup asked

theorem of_conclude {repository : String} {took : Duration} {removed : Int} {metrics : Metrics}
    (path : Path (conclude setting host nameSpace name time repository took removed metrics).run
      trace (.done result)) :
    Concluded setting host nameSpace name time repository took removed trace result := by
  rcases Path.of_bind_ok path with
    ⟨failure, rfl, broken⟩ | ⟨found, counting, rest, rfl, counted, going⟩
  · exact .uncounted broken
  rcases Path.of_bind_ok going with
    ⟨failure, rfl, broken⟩ | ⟨stored, recording, pushed, rfl, recorded, pushing⟩
  · exact .unrecorded counted broken
  · obtain rfl := of_pushMetrics pushing
    exact .recorded counted recorded pushing

theorem of_runWith
    (path : Path (runWith setting host nameSpace name time config secret).run trace
      (.done result)) :
    Secured setting host nameSpace name time config secret trace result := by
  obtain ⟨start, rest, rfl, preparing⟩ := Action.of_tell_bind path
  obtain ⟨prepared, setup, rest, rfl, preparation, going⟩ := Action.of_attempt_bind preparing
  rcases prepared with failure | ⟨tool, repository⟩
  · -- The failure is told before the metrics are pushed.
    obtain ⟨_, rest, rfl, ending⟩ := Action.of_tell_bind going
    obtain ⟨now, rest, rfl, pushing⟩ := of_elapsedSince_bind ending
    rcases Path.of_bind_ok pushing with ⟨failure, _, broken⟩ | ⟨_, pushed, rest, rfl, done, ended⟩
    · cases of_pushMetrics broken
    · obtain ⟨rfl, rfl⟩ := Path.of_done ended
      rw [List.append_nil]
      exact .unprepared (of_prepare preparation) done
  · rcases Path.of_bind_ok going with
      ⟨failure, _, broken⟩ | ⟨⟨metrics, outcome⟩, work, rest, rfl, worked, ending⟩
    · obtain ⟨_, _, _, impossible, _⟩ := of_runGroups broken
      cases impossible
    obtain ⟨now, rest, rfl, closing⟩ := of_elapsedSince_bind ending
    rcases outcome with failure | removed
    · rcases Path.of_bind_ok closing with ⟨failure, _, broken⟩ | ⟨_, pushed, rest, rfl, done, ended⟩
      · cases of_pushMetrics broken
      · obtain ⟨rfl, rfl⟩ := Path.of_done ended
        rw [List.append_nil]
        exact .stopped (of_prepare preparation) worked done
    · exact .worked (of_prepare preparation) worked closing

theorem of_runOnce
    (path : Path (runOnce setting host nameSpace name time).run trace (.done result)) :
    Whole setting host nameSpace name time trace result := by
  rcases Path.of_bind_ok path with ⟨failure, rfl, broken⟩ | ⟨config, first, rest, rfl, read, going⟩
  · obtain rfl := Action.of_ask broken
    exact .unread
  obtain rfl := Action.of_ask read
  rcases config with _ | config
  · obtain ⟨rfl, rfl⟩ := Path.of_done going
    exact .absent
  dsimp only at going
  by_cases paused : config.spec.paused = true
  · rw [if_pos paused] at going
    obtain ⟨rfl, rfl⟩ := Path.of_done going
    exact .paused paused
  rw [if_neg paused] at going
  refine .due (Bool.eq_false_iff.mpr paused) ?_
  cases valid : config.spec.validate with
  | error failure =>
    rw [valid] at going
    obtain ⟨rfl, rfl⟩ := of_refuse going
    exact .invalid valid
  | ok _ =>
    rw [valid] at going
    rcases Path.of_bind_ok going with
      ⟨failure, rfl, broken⟩ | ⟨secret, second, rest, rfl, sought, running⟩
    · obtain rfl := Action.of_ask broken
      exact .unread valid
    obtain rfl := Action.of_ask sought
    rcases secret with _ | secret
    · obtain ⟨rfl, rfl⟩ := of_refuse running
      exact .missing valid
    · exact .secured valid (of_runWith running)

end Course

end ClusterBackup.Backup
