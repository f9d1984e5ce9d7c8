import ClusterBackup.Proofs.Backup.Calls
import ClusterBackup.Proofs.Session.Course
import ClusterBackup.Proofs.Session.Reporting

/-! How the part of a host in a session comes out.

Once a host has reported that it runs, every failure is an outcome of its work, and the host is
brought to its end in the session. -/

set_option autoImplicit false

namespace ClusterBackup.SessionKind

open Program Simulation

def partReasons : List String :=
  ["HostBackupSucceeded", "HostBackupFailed", "HostRestoreSucceeded", "HostRestoreFailed"]

def partEvents (trace : List (Exchange Request)) : List Event :=
  (told trace).filter fun event => decide (event.reason ∈ partReasons)

/-- The entry tells of this result. -/
structure Verdict (host : String) (result : Except Failure Unit) (entry : HostEntry) : Prop where
  host : entry.host = host
  timed : entry.duration.isSome = true
  succeeded : result = .ok () ↔ entry.phase = .succeeded ∧ entry.error = none
  failed : ∀ failure, result = .error failure →
    entry.phase = .failed ∧ entry.error = some failure.message

variable (kind : SessionKind) (nameSpace name : String)

def isRead : Exchange Request → Bool
  | ⟨.get read inSpace called, _⟩ =>
    read == kind.resource && inSpace == nameSpace && called == name
  | _ => false

/-- A read or a write of the session that fails. -/
def isBroken : Exchange Request → Bool
  | ⟨.get read inSpace called, reply⟩ =>
    read == kind.resource && inSpace == nameSpace && called == name && ! reply.isOk
  | ⟨.replaceStatus written _, reply⟩ => written == kind.resource && ! reply.isOk
  | _ => false

/-- The session is read again after every read or write of it that fails. -/
def recovers : List (Exchange Request) → Bool
  | [] => true
  | e :: rest => (! isBroken kind nameSpace name e || rest.any (isRead kind nameSpace name)) &&
      recovers rest

/-- What a host that has taken part leaves behind. -/
structure Concluded (setting : Setting) (host : Host) (trace : List (Exchange Request))
    (result : Except Failure Unit) (t : Store) : Prop where
  /-- The host is at its end in the session, if that still exists. -/
  ended : Ended kind nameSpace name host.name t
  /-- An end that was written by the host itself tells of its result, and is still stored. -/
  recorded : ∀ object written entry, ⟨.replaceStatus kind.resource object, .ok written⟩ ∈ trace →
    Hosts.find? (kind.hosts object) host.name = some entry → entry.phase.isTerminal = true →
    Verdict host.name result entry ∧ Entered kind nameSpace name entry t
  /-- The result is that of the work for the session as it was read first, and it is told once. -/
  worked : ∃ session work first working rest,
    trace.head? = some ⟨.get kind.resource nameSpace name, .ok (some session)⟩ ∧
    trace = first ++ (working ++ rest) ∧ Duty setting host nameSpace kind session work ∧
    Path work.run working (.done result) ∧
    ∃ took, partEvents trace = [partEvent session.reference kind host.name took result]

variable {kind nameSpace name} {setting : Setting} {host : Host} {trace : List (Exchange Request)}
  {result : Except Failure Unit} {entry : HostEntry}

theorem partEvents_append (first second : List (Exchange Request)) :
    partEvents (first ++ second) = partEvents first ++ partEvents second := by
  rw [partEvents, told_append, List.filter_append]
  rfl

theorem partEvents_of_silent (silent : told trace = []) : partEvents trace = [] := by
  rw [partEvents, silent]
  rfl

theorem partEvents_of_run (tells : Backup.TellsOfRun trace) : partEvents trace = [] := by
  refine List.filter_eq_nil_iff.mpr fun event member here => ?_
  have other : event.reason ∈ Backup.runReasons := tells event member
  have same : event.reason ∈ partReasons := of_decide_eq_true here
  -- No reason of a run is one of a part.
  simp only [Backup.runReasons, List.mem_cons, List.not_mem_nil, or_false] at other
  rcases other with reason | reason | reason | reason <;>
    exact absurd (reason ▸ same) (by decide)

theorem partEvents_partEvent (object : Cluster.Reference) (took : String) :
    partEvents [⟨.publish (partEvent object kind host.name took result), ()⟩] =
      [partEvent object kind host.name took result] := by
  refine List.filter_eq_self.mpr fun event member => decide_eq_true ?_
  obtain rfl := List.mem_singleton.mp member
  cases result <;> cases kind <;> simp [partEvent, partReasons]

theorem verdict_finalEntry (host took : String) (result : Except Failure Unit) :
    Verdict host result (Backup.finalEntry host took result) := by
  cases result with
  | ok _ => exact ⟨rfl, rfl, iff_of_true rfl ⟨rfl, rfl⟩, nofun⟩
  | error failure =>
    refine ⟨rfl, rfl, iff_of_false nofun fun both => absurd both.1 nofun, ?_⟩
    rintro _ ⟨⟩
    exact ⟨rfl, rfl⟩

theorem terminal_finalEntry (host took : String) (result : Except Failure Unit) :
    (Backup.finalEntry host took result).phase.isTerminal = true := by
  cases result <;> rfl

theorem Duty.quiet {session : Resource kind.resource} {work : Action Unit}
    (duty : Duty setting host nameSpace kind session work)
    (path : Path work.run trace (.done result)) :
    Apart (.writing kind.resource) trace ∧ partEvents trace = [] := by
  cases duty with
  | backup session time =>
    exact ⟨Touches.apart (Backup.runOnce_touches ..) path (by decide),
      partEvents_of_run (Backup.tellsOfRun_runOnce path)⟩
  | restore session rule =>
    have touches := Restore.work_touches setting host nameSpace session.spec.repository rule
    exact ⟨Touches.apart touches path (by decide),
      partEvents_of_silent (Touches.told_eq_nil touches path (by decide))⟩

section

variable {answer : Except Failure Bool} {session : Resource kind.resource}
  {reply : Except Failure (Resource kind.resource)}

theorem of_tells (path : Path (tells kind setting nameSpace name entry).run trace (.done answer)) :
    ∃ r, Path ((kind.update ⟨setting.policy, entry, none⟩).code nameSpace name) trace (.done r) ∧
      answer = r.1.map fun _ => r.2 := by
  have parts : Path (((kind.update ⟨setting.policy, entry, none⟩).code nameSpace name).bind fun r =>
      .done (r.1.map fun _ => r.2)) trace (.done answer) := path
  obtain ⟨r, first, rest, rfl, updating, ended⟩ := Path.of_bind parts
  obtain ⟨rfl, rfl⟩ := Path.of_done ended
  rw [List.append_nil]
  exact ⟨r, updating, rfl⟩

theorem entry_of_tells
    (path : Path (tells kind setting nameSpace name entry).run trace (.done answer))
    (member : ⟨.replaceStatus kind.resource session, reply⟩ ∈ trace) :
    Hosts.find? (kind.hosts session) entry.host = some entry := by
  obtain ⟨r, updating, _⟩ := of_tells path
  obtain ⟨old, _, changed⟩ := (Update.account updating).carried session reply member
  exact find?_report changed

theorem silent_of_tells
    (path : Path (tells kind setting nameSpace name entry).run trace (.done answer)) :
    partEvents trace = [] := by
  obtain ⟨r, updating, _⟩ := of_tells path
  exact partEvents_of_silent
    (Touches.told_eq_nil (Status.change_touches ..) updating (by simp))

theorem Looks.unwritten (looks : kind.Looks trace) :
    ⟨.replaceStatus kind.resource session, reply⟩ ∉ trace :=
  have apart : Apart (.writing kind.resource) trace := looks.apart (by simp)
  fun member => apart _ member rfl

theorem Looks.silent (looks : kind.Looks trace) : partEvents trace = [] :=
  partEvents_of_silent (looks.apart (by simp)).told_eq_nil

theorem isBroken_of_update {r : HostReport} {e : Exchange Request}
    (broken : (kind.update r).Broken nameSpace name e) :
    kind.isBroken nameSpace name e = true := by
  rcases broken with ⟨failure, rfl⟩ | ⟨object, failure, rfl⟩
  · simp [isBroken, Except.isOk, Except.toBool]
  · simp [isBroken, Update.write, update, Except.isOk, Except.toBool]

theorem not_isBroken_of_recovers {more : List (Exchange Request)} {e : Exchange Request}
    (recovers : kind.recovers nameSpace name (more ++ [e]) = true) :
    kind.isBroken nameSpace name e = false := by
  induction more with
  | nil => simpa [SessionKind.recovers] using recovers
  | cons _ rest ih => exact ih (Bool.and_eq_true_iff.mp recovers).2

theorem ok_of_recovers {front closing before later : List (Exchange Request)}
    {written : Resource kind.resource}
    (closed : Path (tells kind setting nameSpace name entry).run closing (.done answer))
    (whole : front ++ closing =
      before ++ ⟨.replaceStatus kind.resource session, .ok written⟩ :: later)
    (recovers : kind.recovers nameSpace name later = true) :
    ∃ accepted, answer = .ok accepted := by
  obtain ⟨⟨_ | _, flag⟩, updating, rfl⟩ := of_tells closed
  · obtain ⟨during, e, rfl, broken⟩ := Update.broken_of_error updating
    rw [← List.append_assoc] at whole
    rcases List.eq_nil_or_concat later with rfl | ⟨more, last, rfl⟩
    · obtain ⟨_, same⟩ := List.append_inj' whole rfl
      cases List.singleton_inj.mp same
      cases broken.refused
    · rw [List.concat_eq_append] at whole recovers
      rw [← List.cons_append, ← List.append_assoc before] at whole
      obtain ⟨_, same⟩ := List.append_inj' whole rfl
      obtain rfl := List.singleton_inj.mp same
      have fine := not_isBroken_of_recovers recovers
      rw [isBroken_of_update broken] at fine
      cases fine
  · exact ⟨flag, rfl⟩

variable {s t : Store}

theorem reflected_of_tells (terminal : entry.phase.isTerminal = true)
    (path : Path (tells kind setting nameSpace name entry).run trace (.done answer))
    (along : Along (sharing kind nameSpace name entry.host) trace s t)
    (fine : ∃ accepted, answer = .ok accepted) :
    Ended kind nameSpace name entry.host t ∧
      ∀ session written, ⟨.replaceStatus kind.resource session, .ok written⟩ ∈ trace →
        Entered kind nameSpace name entry t := by
  obtain ⟨⟨found, flag⟩, updating, rfl⟩ := of_tells path
  have ensures : Ensures (sharing kind nameSpace name entry.host)
      ((kind.update ⟨setting.policy, entry, none⟩).code nameSpace name)
      (Reflected kind nameSpace name entry) s :=
    ensures_report (r := ⟨setting.policy, entry, none⟩) terminal
  have reflected : Reflected kind nameSpace name entry (found, flag) t :=
    ensures.along updating along t (Terms.rely_refl _ t)
  refine ⟨?_, fun session written member => ?_⟩
  · rcases found with _ | _ | object
    · obtain ⟨_, impossible⟩ := fine
      cases impossible
    · exact reflected
    · cases flag with
      | true => exact ⟨entry, rfl, terminal, reflected⟩
      | false => exact reflected
  · obtain ⟨⟨object, rfl⟩, rfl⟩ := (Update.account updating).accepted.mp ⟨session, written, member⟩
    exact reflected

end

theorem mem_of_mem_telling {closing : List (Exchange Request)} {now : Duration} {event : Event}
    {object : Resource kind.resource} {reply : Except Failure (Resource kind.resource)}
    (member : ⟨.replaceStatus kind.resource object, reply⟩ ∈
      (⟨.now, now⟩ : Exchange Request) :: ⟨.publish event, ()⟩ :: closing) :
    ⟨.replaceStatus kind.resource object, reply⟩ ∈ closing := by
  rcases List.mem_cons.mp member with impossible | member
  · exact absurd (congrArg (·.request.reach) impossible) nofun
  rcases List.mem_cons.mp member with impossible | member
  · exact absurd (congrArg (·.request.reach) impossible) nofun
  · exact member

theorem entry_of_barred {earlier closing : List (Exchange Request)} {outcome : Except Failure Unit}
    {now : Duration} {event : Event} {took : String} {answer : Except Failure Bool}
    {object : Resource kind.resource} {reply : Except Failure (Resource kind.resource)}
    (looks : kind.Looks earlier)
    (closed : Path (tells kind setting nameSpace name
      (Backup.finalEntry host.name took outcome)).run closing (.done answer))
    (member : ⟨.replaceStatus kind.resource object, reply⟩ ∈
      earlier ++ ⟨.now, now⟩ :: ⟨.publish event, ()⟩ :: closing)
    (found : Hosts.find? (kind.hosts object) host.name = some entry) :
    entry = Backup.finalEntry host.name took outcome := by
  rcases List.mem_append.mp member with member | member
  · exact absurd member looks.unwritten
  · have last := entry_of_tells closed (mem_of_mem_telling member)
    rw [(verdict_finalEntry host.name took outcome).host] at last
    exact Option.some.inj (found.symm.trans last)

theorem entry_of_taken {earlier opening between working closing : List (Exchange Request)}
    {session : Resource kind.resource} {work : Action Unit} {outcome : Except Failure Unit}
    {now : Duration} {event : Event} {took : String} {answer : Except Failure Bool}
    {object : Resource kind.resource} {reply : Except Failure (Resource kind.resource)}
    (looks : kind.Looks earlier)
    (opened : Path (tells kind setting nameSpace name (Backup.running host)).run opening
      (.done (.ok true)))
    (waits : kind.Looks between) (duty : Duty setting host nameSpace kind session work)
    (worked : Path work.run working (.done outcome))
    (closed : Path (tells kind setting nameSpace name
      (Backup.finalEntry host.name took outcome)).run closing (.done answer))
    (member : ⟨.replaceStatus kind.resource object, reply⟩ ∈
      earlier ++ (opening ++ (between ++ (working ++ ⟨.now, now⟩ :: ⟨.publish event, ()⟩ ::
        closing))))
    (found : Hosts.find? (kind.hosts object) host.name = some entry) :
    entry = Backup.running host ∨ entry = Backup.finalEntry host.name took outcome ∧
      ⟨.replaceStatus kind.resource object, reply⟩ ∈ closing := by
  -- A write of the session belongs to the first report or to the last. All between them is silent.
  simp only [List.mem_append] at member
  rcases member with member | member | member | member | member
  · exact absurd member looks.unwritten
  · have first := entry_of_tells opened member
    exact .inl (Option.some.inj (found.symm.trans first))
  · exact absurd member waits.unwritten
  · exact absurd rfl ((duty.quiet worked).1 _ member)
  · have member := mem_of_mem_telling member
    have last := entry_of_tells closed member
    rw [(verdict_finalEntry host.name took outcome).host] at last
    exact .inr ⟨Option.some.inj (found.symm.trans last), member⟩

/-- Whatever the collaborators reply and whatever others do to the session, a host whose report
that it runs was accepted is at its end when its call returns, unless a read or a write of the
session fails for good. An end that the host has written itself tells how its work came out, and
that is also what the call returns and what it tells once. -/
theorem takePart_concludes {before later : List (Exchange Request)}
    {session written : Resource kind.resource} {s t : Simulation.Store}
    (path : Path (kind.takePart setting host nameSpace name).run trace (.done result))
    (along : Along (sharing kind nameSpace name host.name) trace s t)
    (begun : trace = before ++ ⟨.replaceStatus kind.resource session, .ok written⟩ :: later)
    (running : Hosts.find? (kind.hosts session) host.name = some (Backup.running host))
    (recovers : kind.recovers nameSpace name later = true) :
    Concluded kind nameSpace name setting host trace result t := by
  have member : ⟨.replaceStatus kind.resource session, .ok written⟩ ∈ trace :=
    begun ▸ List.mem_append_right _ List.mem_cons_self
  cases Course.of_path path with
  | idle looks => exact absurd member looks.unwritten
  | unreported looks reported refused =>
    rcases List.mem_append.mp member with member | member
    · exact absurd member looks.unwritten
    · exact absurd ((reportHost_true_iff reported).mpr (.inl ⟨written, session, running, member⟩))
        refused
  | barred looks wrong closed =>
    -- Nothing is written but the end of the host.
    cases congrArg HostEntry.phase (entry_of_barred looks closed member running)
  | @taken earlier opening between working closing found work outcome now took answer looks read
      opened waits duty worked closed =>
    have final := terminal_finalEntry host.name took outcome
    have named := (verdict_finalEntry host.name took outcome).host
    have split : earlier ++ (opening ++ (between ++ (working ++ ⟨.now, now⟩ ::
        ⟨.publish (partEvent found.reference kind host.name took outcome), ()⟩ :: closing))) =
      (earlier ++ (opening ++ (between ++ (working ++ [⟨.now, now⟩,
        ⟨.publish (partEvent found.reference kind host.name took outcome), ()⟩])))) ++ closing := by
      simp
    obtain ⟨accepted, rfl⟩ := ok_of_recovers closed (split.symm.trans begun) recovers
    obtain ⟨u, _, alongClosing⟩ := (split ▸ along).split
    obtain ⟨ended, entered⟩ := reflected_of_tells final closed (by rwa [named]) ⟨accepted, rfl⟩
    refine ⟨by rwa [named] at ended, ?recorded, found, work, earlier ++ (opening ++ between),
      working, _, by rw [List.head?_append, read]; rfl,
      by rw [List.append_assoc earlier, List.append_assoc opening], duty, worked, took, ?told⟩
    case recorded =>
      intro object written entry member found terminal
      rcases entry_of_taken looks opened waits duty worked closed member found with
        rfl | ⟨rfl, member⟩
      · cases terminal
      · exact ⟨verdict_finalEntry host.name took outcome, entered object written member⟩
    case told =>
      have event :
          partEvents [⟨.publish (partEvent found.reference kind host.name took outcome), ()⟩] =
            [partEvent found.reference kind host.name took outcome] :=
        partEvents_partEvent found.reference took
      rw [split]
      simp only [partEvents_append, looks.silent, silent_of_tells opened, waits.silent,
        (duty.quiet worked).2, silent_of_tells closed, List.nil_append, List.append_nil]
      exact event

section

def dataOnly : RestoreSession :=
  { metadata := Cluster.Metadata.named "apps" "again"
    spec := { repository := "default", rules := [{ paths := ["/data"] }] } }

/-- Another host reports that it runs, just before the first one writes its end. -/
def joined (object : RestoreSession) (s : Store) : Store :=
  match s.find? .restoreSession "apps" "again" with
  | some session =>
    if (Hosts.find? (SessionKind.restore.hosts object) "db-0").any (·.phase.isTerminal) &&
        (Hosts.find? (SessionKind.restore.hosts session) "db-1").isNone then
      (s.accept .restoreSession
        (SessionKind.restore.report { host := "db-1", phase := .running } none session).1).2
    else s
  | none => s

def meddle {β : Type} : Request β → Store → Store
  | .replaceStatus .restoreSession object, s => joined object s
  | _, s => s

theorem keeps_meddle {β : Type} (r : Request β) (s : Store) :
    Keeps .restore "apps" "again" "db-0" s (meddle r s) := by
  have same : Keeps .restore "apps" "again" "db-0" s s := Terms.rely_refl (sharing ..) s
  have joins (object : RestoreSession) :
      Keeps .restore "apps" "again" "db-0" s (joined object s) := by
    unfold joined
    split
    · rename_i session found
      split
      · exact keeps_report _ none found
      · exact same
    · exact same
  cases r with
  | replaceStatus kind object =>
    cases kind with
    | restoreSession => exact joins object
    | _ => exact same
  | _ => exact same

def besides {β : Type} (r : Request β) (s : Store) : β × Store :=
  Store.serve Store.quiet r (meddle r s)

def participant : Host := .derive .statefulSet "db" "db-0" "node"

def ruined : List (Exchange Request) × Program Request (Except Failure Unit) × Store :=
  follow besides 40 (SessionKind.restore.takePart ⟨{}, .conflict⟩ participant "apps" "again").run
    (Store.accept {} .restoreSession dataOnly).2

def night : BackupSession := { metadata := Cluster.Metadata.named "apps" "night", spec := ⟨"web"⟩ }

def stored : Store :=
  (Store.accept ((Store.accept {} .configuration Backup.Halting.paired).2.putSecret
    Backup.Halting.keys) .backupSession night).2

def undisturbed : List (Exchange Request) × Program Request (Except Failure Unit) × Store :=
  follow (Store.serve Store.quiet) 80
    (SessionKind.backup.takePart ⟨{}, .conflict⟩ Backup.Halting.web "apps" "night").run stored

theorem takePart_concludes_ruined :
    (Concluded .restore "apps" "again" ⟨{}, .conflict⟩ participant ruined.1
      (.error (.notFound "Repository" "apps" "default")) ruined.2.2 ∧
    (ruined.2.2.find? .restoreSession "apps" "again").map SessionKind.restore.hosts = some
      [{ host := "db-0", phase := .failed, duration := some "0s"
         error := some "Repository apps/default not found" },
        { host := "db-1", phase := .running }]) ∧
    Concluded .backup "apps" "night" ⟨{}, .conflict⟩ Backup.Halting.web undisturbed.1 (.ok ())
      undisturbed.2.2 ∧
    (undisturbed.2.2.find? .backupSession "apps" "night").map SessionKind.backup.hosts = some
      [{ host := "web", phase := .succeeded, duration := some "0s" }] := by
  refine ⟨?ruined, ?undisturbed⟩
  case ruined =>
    have path : Path (SessionKind.restore.takePart ⟨{}, .conflict⟩ participant "apps" "again").run ruined.1
        (.done (.error (.notFound "Repository" "apps" "default"))) :=
      follow_path besides 40 _ _
    have along : Along (sharing .restore "apps" "again" "db-0") ruined.1
        (Store.accept {} .restoreSession dataOnly).2 ruined.2.2 := by
      have explains : Explains (fun s e t => Store.Answers (meddle e.request s) e t) ruined.1
          (Store.accept {} .restoreSession dataOnly).2 ruined.2.2 :=
        follow_explains _ (fun r s => .inl (Store.honest_serve Store.quiet r _)) 40 _ _
      exact Along.of_explains
        (fun s e t answers => ⟨_, keeps_meddle e.request s, answers, trivial⟩) explains
    let session : RestoreSession := (SessionKind.restore.report (Backup.running participant) none
      (Store.withVersion 1 dataOnly)).1
    have begun : ruined.1 = ruined.1.take 3 ++
        ⟨.replaceStatus SessionKind.restore.resource session,
          .ok (Store.withVersion 2 session)⟩ :: ruined.1.drop 4 := by rfl
    exact ⟨takePart_concludes path along begun (by rfl) (by rfl), by rfl⟩
  case undisturbed =>
    have path : Path (SessionKind.backup.takePart ⟨{}, .conflict⟩ Backup.Halting.web "apps" "night").run
        undisturbed.1 (.done (.ok ())) :=
      follow_path (Store.serve Store.quiet) 80 _ _
    have along : Along (sharing .backup "apps" "night" "web") undisturbed.1 stored undisturbed.2.2 := by
      have explains : Explains (fun s e t => Store.Answers s e t) undisturbed.1 stored
          undisturbed.2.2 :=
        follow_explains _ (fun r s => .inl (Store.honest_serve Store.quiet r s)) 80 _ _
      exact Along.of_explains
        (fun s e t answers => ⟨_, Terms.rely_refl (sharing ..) s, answers, trivial⟩) explains
    let session : BackupSession := (SessionKind.backup.report (Backup.running Backup.Halting.web)
      none (Store.withVersion 2 night)).1
    have begun : undisturbed.1 = undisturbed.1.take 3 ++
        ⟨.replaceStatus SessionKind.backup.resource session,
          .ok (Store.withVersion 3 session)⟩ :: undisturbed.1.drop 4 := by rfl
    exact ⟨takePart_concludes path along begun (by rfl) (by rfl), by rfl⟩

end

end ClusterBackup.SessionKind
