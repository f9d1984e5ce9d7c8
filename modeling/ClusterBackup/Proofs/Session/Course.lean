import ClusterBackup.Proofs.Backup.Groups
import ClusterBackup.Proofs.Session.Admission
import ClusterBackup.Proofs.Restore.Rule

/-! The courses that the part of a host in a session can take, in backups and in restores.

A host that takes part reports that it runs, does its work, tells how it ended and reports that.
Whatever fails in between is the outcome of the work, which is reported like any other. -/

set_option autoImplicit false

namespace ClusterBackup.SessionKind

open Program Cluster

def takePart (kind : SessionKind) (setting : Setting) (host : Host) (nameSpace name : String) :
    Action Unit :=
  match kind with
  | .backup => Backup.runSession setting host nameSpace name
  | .restore => Restore.run setting host nameSpace name

def objection? : (kind : SessionKind) → Resource kind.resource → Option Failure
  | .backup, _ => none
  | .restore, session =>
    match RestoreSessionSpec.validate session.spec with
    | .ok () => none
    | .error failure => some failure

/-- What a host has to do in a session: a run of its configuration, or the rule for the host. -/
inductive Duty (setting : Setting) (host : Host) (nameSpace : String) :
    (kind : SessionKind) → Resource kind.resource → Action Unit → Prop where
  | backup (session : BackupSession) (time : Instant) :
      Duty setting host nameSpace .backup session
        (Backup.runOnce setting host nameSpace session.spec.configuration time)
  | restore (session : RestoreSession) (rule : RestoreRule) :
      objection? .restore session = none → session.spec.ruleFor? host.name = some rule →
      Duty setting host nameSpace .restore session
        (Restore.work setting host nameSpace session.spec.repository rule)

def partEvent (object : Reference) (kind : SessionKind) (host took : String) :
    Except Failure Unit → Event
  | .ok () => match kind with
    | .backup =>
      { object, warning := false, reason := "HostBackupSucceeded", action := "Backup"
        note := some ("Backup completed for host " ++ host ++ " in " ++ took) }
    | .restore =>
      { object, warning := false, reason := "HostRestoreSucceeded", action := "Restore"
        note := some ("Restore completed for host " ++ host ++ " in " ++ took) }
  | .error failure => match kind with
    | .backup =>
      { object, warning := true, reason := "HostBackupFailed", action := "Backup"
        note := some ("Backup failed for host " ++ host ++ ": " ++ failure.message) }
    | .restore =>
      { object, warning := true, reason := "HostRestoreFailed", action := "Restore"
        note := some ("Restore failed for host " ++ host ++ ": " ++ failure.message) }

theorem announceShare_eq (object : Reference) (kind : SessionKind) (host took : String)
    (outcome : Except Failure Unit) : Backup.announceShare object kind host took outcome =
      Action.tell (.publish (partEvent object kind host took outcome)) := by
  cases outcome <;> cases kind <;> rfl

/-- Nothing but the session and the clock is looked at. -/
def Looks (kind : SessionKind) (trace : List (Exchange Request)) : Prop :=
  ∀ e ∈ trace, e.request.reach ∈ [Reach.reading kind.resource, .clock]

theorem looks_append {kind : SessionKind} {first second : List (Exchange Request)} :
    kind.Looks (first ++ second) ↔ kind.Looks first ∧ kind.Looks second :=
  List.forall_mem_append

theorem Looks.apart {kind : SessionKind} {trace : List (Exchange Request)} (looks : kind.Looks trace)
    {reach : Reach} (other : reach ∉ [Reach.reading kind.resource, .clock]) : Apart reach trace :=
  fun e member same => other (same ▸ looks e member)

variable (kind : SessionKind) (setting : Setting) (host : Host) (nameSpace name : String)

def tells (entry : HostEntry) : Action Bool :=
  Status.reportHost setting.policy kind nameSpace name entry none

inductive Course : List (Exchange Request) → Except Failure Unit → Prop where
  /-- The host has no part in the session, or cannot read it. -/
  | idle {trace : List (Exchange Request)} {result : Except Failure Unit} :
      kind.Looks trace → Course trace result
  /-- The host cannot report that it runs. -/
  | unreported {earlier opening : List (Exchange Request)} {answer : Except Failure Bool} :
      kind.Looks earlier →
      Path (tells kind setting nameSpace name (Backup.running host)).run opening (.done answer) →
      answer ≠ .ok true → Course (earlier ++ opening) (answer.map fun _ => ())
  /-- The session is wrong, and the host reports that. -/
  | barred {earlier closing : List (Exchange Request)} {session : Resource kind.resource}
      {failure : Failure} {now : Duration} {took : String} {answer : Except Failure Bool} :
      kind.Looks earlier → kind.objection? session = some failure →
      Path (tells kind setting nameSpace name
        (Backup.finalEntry host.name took (.error failure))).run closing (.done answer) →
      Course (earlier ++ ⟨.now, now⟩ ::
          ⟨.publish (partEvent session.reference kind host.name took (.error failure)), ()⟩ ::
          closing)
        (answer.bind fun _ => .error failure)
  | taken {earlier opening between working closing : List (Exchange Request)}
      {session : Resource kind.resource} {work : Action Unit} {outcome : Except Failure Unit}
      {now : Duration} {took : String} {answer : Except Failure Bool} :
      kind.Looks earlier →
      earlier.head? = some ⟨.get kind.resource nameSpace name, .ok (some session)⟩ →
      Path (tells kind setting nameSpace name (Backup.running host)).run opening
        (.done (.ok true)) →
      kind.Looks between → Duty setting host nameSpace kind session work →
      Path work.run working (.done outcome) →
      Path (tells kind setting nameSpace name
        (Backup.finalEntry host.name took outcome)).run closing (.done answer) →
      Course (earlier ++ (opening ++ (between ++ (working ++ ⟨.now, now⟩ ::
          ⟨.publish (partEvent session.reference kind host.name took outcome), ()⟩ :: closing))))
        (answer.bind fun _ => outcome)

variable {kind setting host nameSpace name} {trace : List (Exchange Request)}
  {result : Except Failure Unit}

theorem of_conclusion {object : Reference} {start : Duration} {outcome : Except Failure Unit}
    (path : Path (Backup.elapsedSince start >>= fun took => do
        Backup.announceShare object kind host.name took.text outcome
        let _ ← Status.reportHost setting.policy kind nameSpace name
          (Backup.finalEntry host.name took.text outcome) none
        Action.ofExcept outcome).run trace (.done result)) :
    ∃ now took closing answer,
      trace = ⟨.now, now⟩ :: ⟨.publish (partEvent object kind host.name took outcome), ()⟩ ::
        closing ∧
      Path (tells kind setting nameSpace name (Backup.finalEntry host.name took outcome)).run closing
        (.done answer) ∧ result = answer.bind fun _ => outcome := by
  obtain ⟨now, rest, rfl, telling⟩ := Backup.of_elapsedSince_bind path
  rw [announceShare_eq] at telling
  obtain ⟨_, rest, rfl, reporting⟩ := Action.of_tell_bind telling
  rcases Path.of_bind_ok reporting with
    ⟨failure, rfl, failed⟩ | ⟨accepted, closing, none, rfl, reported, ended⟩
  · exact ⟨now, _, _, _, rfl, failed, rfl⟩
  · obtain ⟨rfl, rfl⟩ := Path.of_done ended
    exact ⟨now, _, _, _, by rw [List.append_nil], reported, rfl⟩

theorem looks_of_hostPhase {found : Except Failure (Option Phase)}
    (path : Path (Status.hostPhase nameSpace name host.name).run trace (.done found)) :
    Looks .backup trace := by
  have touches : (Status.hostPhase nameSpace name host.name).Touches
      [Reach.reading .backupSession, .clock] :=
    .bind (.ask (.head _)) fun _ => .pure _
  exact Within.path touches path

theorem looks_singleton {kind : SessionKind} {e : Exchange Request}
    (member : e.request.reach ∈ [Reach.reading kind.resource, .clock]) : kind.Looks [e] :=
  fun _ here => List.mem_singleton.mp here ▸ member

theorem Course.of_runSession
    (path : Path (Backup.runSession setting host nameSpace name).run trace (.done result)) :
    Course .backup setting host nameSpace name trace result := by
  rcases Path.of_bind_ok path with
    ⟨failure, rfl, failed⟩ | ⟨session, first, rest, rfl, read, going⟩
  · obtain rfl := Action.of_ask failed
    exact .idle (looks_singleton (.head _))
  obtain rfl := Action.of_ask read
  have looked : Looks .backup [⟨.get .backupSession nameSpace name, .ok session⟩] :=
    looks_singleton (.head _)
  rcases session with _ | session
  · obtain ⟨rfl, rfl⟩ := Path.of_done going
    exact .idle looked
  rcases Path.of_bind_ok going with
    ⟨failure, rfl, failed⟩ | ⟨phase, second, rest, rfl, sought, going⟩
  · exact .idle (looks_append.mpr ⟨looked, looks_of_hostPhase failed⟩)
  have earlier := looks_append.mpr ⟨looked, looks_of_hostPhase sought⟩
  by_cases ended : phase.any Phase.isTerminal = true
  · rw [if_pos ended] at going
    obtain ⟨rfl, rfl⟩ := Path.of_done going
    exact .idle (by simpa using earlier)
  rw [if_neg ended] at going
  rw [← List.append_assoc]
  rcases Path.of_bind_ok going with
    ⟨failure, rfl, failed⟩ | ⟨accepted, opening, rest, rfl, reported, going⟩
  · exact .unreported earlier failed nofun
  -- A report that is refused tells that the host has come to its end in the meantime.
  cases accepted with
  | false =>
    obtain ⟨rfl, rfl⟩ := Path.of_done going
    rw [List.append_nil]
    exact .unreported earlier reported nofun
  | true =>
    obtain ⟨start, rest, rfl, begun⟩ := Action.of_tell_bind going
    obtain ⟨time, rest, rfl, dated⟩ := Action.of_tell_bind begun
    obtain ⟨outcome, working, rest, rfl, worked, concluding⟩ := Action.of_attempt_bind dated
    obtain ⟨now, took, closing, answer, rfl, closed, rfl⟩ := of_conclusion concluding
    have between : Looks .backup [⟨.now, start⟩, ⟨.calendar, time⟩] := by
      simp [Looks, Request.reach]
    exact .taken earlier rfl reported between (.backup session time) worked closed

/-- A wrong session has an outcome at once. In another one a host with a rule reports that it
runs, and does its work if the session takes the report. -/
theorem of_share {session : RestoreSession} {shared : Except Failure (Option (Except Failure Unit))}
    (path : Path (Restore.share setting host nameSpace name session).run trace (.done shared)) :
    (∃ failure, objection? .restore session = some failure ∧ trace = [] ∧
      shared = .ok (some (.error failure))) ∨
    (trace = [] ∧ shared = .ok none) ∨
    (∃ answer, Path (tells .restore setting nameSpace name (Backup.running host)).run trace
      (.done answer) ∧ answer ≠ .ok true ∧ shared = answer.map fun _ => none) ∨
    ∃ opening working work outcome, trace = opening ++ working ∧
      Path (tells .restore setting nameSpace name (Backup.running host)).run opening
        (.done (.ok true)) ∧
      Duty setting host nameSpace .restore session work ∧ Path work.run working (.done outcome) ∧
      shared = .ok (some outcome) := by
  unfold Restore.share at path
  cases valid : session.spec.validate with
  | error failure =>
    rw [valid] at path
    obtain ⟨rfl, rfl⟩ := Path.of_done path
    exact .inl ⟨failure, by simp only [objection?, valid], rfl, rfl⟩
  | ok _ =>
    rw [valid] at path
    have sound : objection? .restore session = none := by simp only [objection?, valid]
    cases applies : session.spec.ruleFor? host.name with
    | none =>
      rw [applies] at path
      obtain ⟨rfl, rfl⟩ := Path.of_done path
      exact .inr (.inl ⟨rfl, rfl⟩)
    | some rule =>
      rw [applies] at path
      refine .inr (.inr ?_)
      rcases Path.of_bind_ok path with
        ⟨failure, rfl, failed⟩ | ⟨accepted, opening, rest, rfl, reported, going⟩
      · exact .inl ⟨_, failed, nofun, rfl⟩
      -- Only a host whose report is accepted does the work.
      cases accepted with
      | false =>
        obtain ⟨rfl, rfl⟩ := Path.of_done going
        rw [List.append_nil]
        exact .inl ⟨_, reported, nofun, rfl⟩
      | true =>
        obtain ⟨outcome, working, rest, rfl, worked, ended⟩ := Action.of_attempt_bind going
        obtain ⟨rfl, rfl⟩ := Path.of_done ended
        rw [List.append_nil]
        exact .inr ⟨opening, working, _, outcome, rfl, reported, .restore session rule sound applies,
          worked, rfl⟩

theorem Course.of_restore
    (path : Path (Restore.run setting host nameSpace name).run trace (.done result)) :
    Course .restore setting host nameSpace name trace result := by
  rcases Path.of_bind_ok path with
    ⟨failure, rfl, failed⟩ | ⟨session, first, rest, rfl, read, going⟩
  · obtain rfl := Action.of_ask failed
    exact .idle (looks_singleton (.head _))
  obtain rfl := Action.of_ask read
  rcases session with _ | session
  · obtain ⟨rfl, rfl⟩ := Path.of_done going
    exact .idle (looks_singleton (.head _))
  obtain ⟨start, rest, rfl, sharing⟩ := Action.of_tell_bind going
  have earlier : Looks .restore
      [⟨.get .restoreSession nameSpace name, .ok (some session)⟩, ⟨.now, start⟩] := by
    simp [Looks, Request.reach, resource]
  change Course _ _ _ _ _ ([_, _] ++ rest) _
  -- A share fails as a whole only if the report that the host runs cannot be written.
  rcases Path.of_bind_ok sharing with
    ⟨failure, rfl, failed⟩ | ⟨share, shared, rest, rfl, divided, ending⟩
  · rcases of_share failed with ⟨_, _, _, impossible⟩ | ⟨_, impossible⟩ |
      ⟨answer, reported, refused, same⟩ | ⟨_, _, _, _, _, _, _, _, impossible⟩
    · cases impossible
    · cases impossible
    · rcases answer with _ | accepted
      · cases same
        exact .unreported earlier reported refused
      · cases same
    · cases impossible
  · rcases of_share divided with ⟨failure, wrong, rfl, same⟩ | ⟨rfl, same⟩ |
      ⟨answer, reported, refused, same⟩ |
      ⟨opening, working, work, outcome, rfl, reported, duty, worked, same⟩
    · cases same
      obtain ⟨now, took, closing, answer, rfl, closed, rfl⟩ := of_conclusion ending
      exact .barred earlier wrong closed
    · cases same
      obtain ⟨rfl, rfl⟩ := Path.of_done ending
      exact .idle earlier
    · rcases answer with _ | accepted
      · cases same
      · cases same
        obtain ⟨rfl, rfl⟩ := Path.of_done ending
        rw [List.append_nil]
        exact .unreported earlier reported refused
    · cases same
      obtain ⟨now, took, closing, answer, rfl, closed, rfl⟩ := of_conclusion ending
      rw [List.append_assoc]
      have between : Looks .restore [] := fun e member => absurd member List.not_mem_nil
      exact .taken earlier rfl reported between duty worked closed

theorem Course.of_path
    (path : Path (kind.takePart setting host nameSpace name).run trace (.done result)) :
    Course kind setting host nameSpace name trace result := by
  cases kind with
  | backup => exact .of_runSession path
  | restore => exact .of_restore path

end ClusterBackup.SessionKind
