import ClusterBackup.Proofs.Backup.Footprint
import ClusterBackup.Proofs.Backup.Groups
import ClusterBackup.Proofs.Retry.Polls
import ClusterBackup.Proofs.Session.Alone
import ClusterBackup.Run.Snapshots

/-! What is exchanged and reported while the snapshots of the claims of a workload are taken.

Both passes over the claims make one report for each claim: a first one when its snapshot is
created or refused, and a second one when it has been waited for. -/

set_option autoImplicit false

namespace ClusterBackup.Snapshots

open Program Simulation

/-- Neither in failure nor waited for any more. -/
def Ready (snapshot : Snapshot) : Prop :=
  Snapshot.errorMessage? snapshot = none ∧ Snapshot.isReady snapshot = true

variable {book : Book} {patience : Patience} {entry : HostEntry} {snapshot : Snapshot}
  {claim nameSpace name : String} {trace : List (Exchange Request)} {s t : Store}
  {reports : List HostEntry}

section

def look (nameSpace name : String) :
    Program Request (Except Failure (Option (Except String Unit))) :=
  ExceptT.run (m := Program Request) do
    let snapshot ← Action.found (.notFound "VolumeSnapshot" nameSpace name)
      (← Action.ask (.get .snapshot nameSpace name))
    match Snapshot.errorMessage? snapshot with
    | some message => return some (Except.error message)
    | none => return if Snapshot.isReady snapshot then some (Except.ok ()) else none

def Sees (nameSpace name : String) (trace : List (Exchange Request)) : Prop :=
  ∃ found, Ready found ∧ ⟨.get .snapshot nameSpace name, .ok (some found)⟩ ∈ trace

theorem sees_append {first second : List (Exchange Request)} :
    Sees nameSpace name (first ++ second) ↔ Sees nameSpace name first ∨ Sees nameSpace name second := by
  simp only [Sees, List.mem_append, and_or_left, exists_or]

theorem not_sees (apart : Apart (.reading .snapshot) trace) : ¬ Sees nameSpace name trace :=
  fun ⟨_, _, member⟩ => apart _ member rfl

theorem of_look {result : Except Failure (Option (Except String Unit))}
    (path : Path (look nameSpace name) trace (.done result)) :
    (∃ reply, trace = [⟨.get .snapshot nameSpace name, reply⟩]) ∧
      (result = .ok (some (.ok ())) ↔ Sees nameSpace name trace) := by
  rcases Path.of_bind_ok path with ⟨failure, rfl, asked⟩ | ⟨found, first, rest, rfl, asked, judged⟩
  · obtain rfl := Action.of_ask asked
    exact ⟨⟨_, rfl⟩, by simp [Sees]⟩
  obtain rfl := Action.of_ask asked
  cases found with
  | none =>
    obtain ⟨rfl, rfl⟩ := Path.of_done judged
    exact ⟨⟨_, rfl⟩, by simp [Sees]⟩
  | some snapshot =>
    have going : Path (ExceptT.run (m := Program Request) (match Snapshot.errorMessage? snapshot with
      | some message => return some (Except.error message)
      | none => return if Snapshot.isReady snapshot then some (Except.ok ()) else none))
        rest (.done result) := judged
    cases message : Snapshot.errorMessage? snapshot with
    | some message | none =>
      simp only [message] at going
      obtain ⟨rfl, rfl⟩ := Path.of_done going
      exact ⟨⟨_, rfl⟩, by simp [Sees, Ready, message]⟩

/-- The looks at a snapshot find it ready exactly if that is the answer. -/
theorem looked_of_polls {interval deadline : Duration} {message : String}
    {ending : Except Failure (Except String Unit)}
    (polls : Polls interval deadline message (look nameSpace name) trace ending) :
    (∀ e ∈ trace, e.request.reach = .clock ∨ ∃ reply, e = ⟨.get .snapshot nameSpace name, reply⟩) ∧
      (ending = .ok (.ok ()) ↔ Sees nameSpace name trace) := by
  have unseen {part : List (Exchange Request)} {result : Except Failure (Option (Except String Unit))}
      (path : Path (look nameSpace name) part (.done result))
      (silent : ∀ answer, result ≠ .ok (some answer)) : ¬ Sees nameSpace name part :=
    fun sees => silent _ ((of_look path).2.mpr sees)
  -- A look that finds the snapshot ready is the last one.
  induction polls with
  | found path =>
    obtain ⟨⟨reply, rfl⟩, answered⟩ := of_look path
    exact ⟨by simp, by rw [← answered]; simp⟩
  | late path silent =>
    obtain ⟨⟨reply, rfl⟩, _⟩ := of_look path
    refine ⟨?_, iff_of_false nofun ?_⟩
    · simp [Request.reach, Timed.now]
    · rw [sees_append]
      exact not_or.mpr ⟨unseen path silent, not_sees (by simp [Request.reach, Timed.now])⟩
  | @again _ _ _ now _ path silent _ _ ih =>
    obtain ⟨⟨reply, rfl⟩, _⟩ := of_look path
    refine ⟨?_, ih.2.trans ?_⟩
    · simpa [Request.reach, Timed.now, Timed.sleep] using ih.1
    · have waiting : ¬ Sees nameSpace name [⟨Timed.now, now⟩, ⟨Timed.sleep interval, ()⟩] :=
        not_sees (by simp [Request.reach, Timed.now, Timed.sleep])
      rw [sees_append, or_iff_right (unseen path silent)]
      exact (or_iff_right waiting).symm.trans sees_append.symm

theorem apart_of_polls {interval deadline : Duration} {message : String} {reach : Reach}
    {ending : Except Failure (Except String Unit)}
    (polls : Polls interval deadline message (look nameSpace name) trace ending)
    (timeless : reach ≠ .clock) (other : reach ≠ .reading .snapshot) : Apart reach trace := by
  intro e member
  rcases (looked_of_polls polls).1 e member with clock | ⟨reply, rfl⟩
  · exact clock ▸ timeless.symm
  · exact other.symm

theorem of_awaitReady {result : Except String Unit}
    (path : Path (awaitReady patience nameSpace name) trace (.done result)) :
    ∃ start rest message ending, trace = ⟨.now, start⟩ :: rest ∧
      Polls patience.interval ⟨start.nanos + patience.timeout.nanos⟩ message
        (look nameSpace name) rest ending ∧ (result = .ok () ↔ ending = .ok (.ok ())) := by
  obtain ⟨ending, first, second, rfl, polled, judged⟩ := Path.of_bind path
  obtain ⟨start, rest, rfl, polls⟩ := Polls.of_path polled
  cases ending with
  | error failure | ok answer =>
    obtain ⟨rfl, rfl⟩ := Path.of_done judged
    exact ⟨start, rest, _, _, by rw [List.append_nil]; rfl, polls, by simp⟩

end

section

/-- Nothing was exchanged about snapshots. -/
def Aside (trace : List (Exchange Request)) : Prop :=
  Apart (.reading .snapshot) trace ∧ Apart (.writing .snapshot) trace

theorem Aside.append {first second : List (Exchange Request)} (left : Aside first)
    (right : Aside second) : Aside (first ++ second) :=
  ⟨(apart_append _ _ _).mpr ⟨left.1, right.1⟩, (apart_append _ _ _).mpr ⟨left.2, right.2⟩⟩

theorem aside_of_touches {α : Type} {few : List Reach} {p q : Program Request α}
    (touches : Touches few p) (path : Path p trace q) (reading : .reading .snapshot ∉ few)
    (writing : .writing .snapshot ∉ few) : Aside trace :=
  ⟨touches.apart path reading, touches.apart path writing⟩

/-- The session has the reports in it, all of them for as many hosts. -/
abbrev Kept (book : Book) : List HostEntry → Store → Prop :=
  SessionKind.backup.Records book.nameSpace book.session book.total

/-- Nobody else writes the session, and the calls for it succeed. -/
abbrev Calm (book : Book) : List (Exchange Request) → Store → Store → Prop :=
  SessionKind.backup.Undisturbed book.nameSpace book.session

theorem record_touches (book : Book) (entry : HostEntry) :
    (book.record entry).Touches [.reading .backupSession, .writing .backupSession, .clock] :=
  .bind (Status.reportHost_touches _ .backup ..) fun _ => .pure _

theorem kept_record {result : Except Failure Unit} (kept : Kept book reports s)
    (path : Path (book.record entry).run trace (.done result)) (calm : Calm book trace s t) :
    result = .ok () ∧ Kept book (reports ++ [entry]) t ∧ Aside trace := by
  have aside := aside_of_touches (record_touches book entry) path (by decide) (by decide)
  rcases Path.of_bind_ok path with ⟨failure, rfl, broken⟩ | ⟨_, first, second, rfl, told, ended⟩
  · obtain ⟨⟨_, impossible⟩, _⟩ := kept.report broken calm
    cases impossible
  · obtain ⟨rfl, rfl⟩ := Path.of_done ended
    rw [List.append_nil] at calm
    exact ⟨rfl, (kept.report told calm).2, aside⟩

theorem kept_bind {α : Type} {x : Action Unit} {f : Unit → Action α} {result : Except Failure α}
    {later : List HostEntry}
    (records : ∀ {part between outcome}, Path x.run part (.done outcome) → Calm book part s between →
      outcome = .ok () ∧ Kept book later between ∧ Aside part)
    (path : Path (x >>= f).run trace (.done result)) (calm : Calm book trace s t) :
    ∃ told rest between, trace = told ++ rest ∧ Aside told ∧ Kept book later between ∧
      Calm book rest between t ∧ Path (f ()).run rest (.done result) := by
  rcases Path.of_bind_ok path with ⟨failure, rfl, broken⟩ | ⟨_, told, rest, rfl, recorded, going⟩
  · obtain ⟨impossible, _⟩ := records broken calm
    cases impossible
  · obtain ⟨between, before, after⟩ := calm.split
    obtain ⟨_, kept, aside⟩ := records recorded before
    exact ⟨told, rest, between, rfl, aside, kept, after, going⟩

theorem kept_recordFailure {message : String} {result : Except Failure Unit}
    (kept : Kept book reports s)
    (path : Path (book.recordFailure claim message).run trace (.done result))
    (calm : Calm book trace s t) :
    result = .ok () ∧
      Kept book (reports ++ [{ host := claim, phase := .failed, error := some message }]) t ∧
      Aside trace := by
  obtain ⟨told, rest, between, rfl, aside, kept, after, warned⟩ :=
    kept_bind (kept_record kept) path calm
  obtain ⟨_, rfl, rfl⟩ := Action.of_tell warned
  exact ⟨rfl, kept.quiet after (by simp [Request.reach]),
    aside.append ⟨by simp [Request.reach], by simp [Request.reach]⟩⟩

/-- What is exchanged for the creation of one snapshot, and what is reported of it. -/
structure Begins (snapshotOf : String → Snapshot) (claim : String) (began : Bool)
    (trace : List (Exchange Request)) (entry : HostEntry) : Prop where
  host : entry.host = claim
  phase : entry.phase = if began then .running else .failed
  asks : ∃ reply rest, trace = ⟨.create .snapshot (snapshotOf claim), reply⟩ :: rest ∧
    began = reply.isOk ∧ Aside rest

theorem kept_createOne {snapshotOf : String → Snapshot} {result : Except Failure Bool}
    (kept : Kept book reports s)
    (path : Path (createOne book (snapshotOf claim) claim).run trace (.done result))
    (calm : Calm book trace s t) :
    ∃ began entry, result = .ok began ∧ Begins snapshotOf claim began trace entry ∧
      Kept book (reports ++ [entry]) t := by
  obtain ⟨reply, first, rest, rfl, asked, going⟩ := Action.of_attempt_bind path
  obtain rfl := Action.of_ask asked
  obtain ⟨middle, creation, after⟩ := calm.split
  have kept := kept.quiet creation (by simp [Request.reach, SessionKind.resource])
  cases reply with
  | ok made =>
    obtain ⟨told, last, _, rfl, aside, kept, quiet, ended⟩ := kept_bind (kept_record kept) going after
    obtain ⟨rfl, rfl⟩ := Path.of_done ended
    exact ⟨true, _, rfl, ⟨rfl, rfl, _, _, rfl, rfl, by simpa using aside⟩,
      kept.quiet quiet (apart_nil _)⟩
  | error failure =>
    obtain ⟨told, last, _, rfl, aside, kept, quiet, ended⟩ :=
      kept_bind (kept_recordFailure kept) going after
    obtain ⟨rfl, rfl⟩ := Path.of_done ended
    exact ⟨false, _, rfl, ⟨rfl, rfl, _, _, rfl, rfl, by simpa using aside⟩,
      kept.quiet quiet (apart_nil _)⟩

/-- A look finds the snapshot ready that is in time. The first of two readings of the clock is where
the waiting begins, and the second one is where its deadline is counted from. -/
def SeesInTime (patience : Patience) (nameSpace name : String) (trace : List (Exchange Request)) :
    Prop :=
  ∃ began start before found, Ready found ∧
    InTime patience.interval ⟨start.nanos + patience.timeout.nanos⟩ before ∧
    ⟨.now, began⟩ :: ⟨.now, start⟩ :: (before ++ [⟨.get .snapshot nameSpace name, .ok (some found)⟩])
      <:+: trace

/-- What is exchanged while one snapshot is waited for, and what is reported of it. -/
structure Waits (patience : Patience) (nameSpace : String) (nameOf : String → String)
    (claim : String) (ready : Bool) (trace : List (Exchange Request)) (entry : HostEntry) :
    Prop where
  host : entry.host = claim
  phase : entry.phase = if ready then .succeeded else .failed
  uncreated : Apart (.writing .snapshot) trace
  inTime : ready = true → SeesInTime patience nameSpace (nameOf claim) trace
  seen : ∀ otherSpace other, Sees otherSpace other trace → other = nameOf claim ∧ ready = true

theorem waits_of_polls {nameOf : String → String} {began start : Duration} {message : String}
    {ending : Except Failure (Except String Unit)} {ready : Bool} {looks rest : List (Exchange Request)}
    (polls : Polls patience.interval ⟨start.nanos + patience.timeout.nanos⟩ message
      (look nameSpace (nameOf claim)) looks ending)
    (answered : ready = true ↔ ending = .ok (.ok ())) (aside : Aside rest)
    (host : entry.host = claim) (phase : entry.phase = if ready then .succeeded else .failed) :
    Waits patience nameSpace nameOf claim ready
      (⟨.now, began⟩ :: ⟨.now, start⟩ :: (looks ++ rest)) entry := by
  obtain ⟨only, sees⟩ := looked_of_polls polls
  refine ⟨host, phase, ?_, fun yes => ?_, ?_⟩
  · have looking : Apart (.writing .snapshot) looks := apart_of_polls polls nofun nofun
    simpa [Request.reach] using ⟨looking, aside.2⟩
  · obtain rfl := answered.mp yes
    obtain ⟨before, last, rfl, inTime, path⟩ := polls.of_ok
    obtain ⟨⟨reply, rfl⟩, looked⟩ := of_look path
    obtain ⟨found, ready, member⟩ := looked.mp rfl
    cases List.mem_singleton.mp member
    exact ⟨began, start, before, found, ready, inTime, [], rest, by simp⟩
  · intro otherSpace other seen
    have clock : ¬ Sees otherSpace other [⟨.now, began⟩, ⟨.now, start⟩] :=
      not_sees (by simp [Request.reach])
    have parts : Sees otherSpace other ([⟨.now, began⟩, ⟨.now, start⟩] ++ (looks ++ rest)) := seen
    rw [sees_append, or_iff_right clock, sees_append, or_iff_left (not_sees aside.1)] at parts
    obtain ⟨found, ready, member⟩ := parts
    rcases only _ member with impossible | ⟨reply, same⟩
    · cases impossible
    · cases same
      exact ⟨rfl, answered.mpr (sees.mpr ⟨found, ready, member⟩)⟩

theorem kept_awaitOne {nameOf : String → String} {result : Except Failure Bool}
    (kept : Kept book reports s)
    (path : Path (awaitOne book patience claim (nameOf claim)).run trace (.done result))
    (calm : Calm book trace s t) :
    ∃ ready entry, result = .ok ready ∧
      Waits patience book.nameSpace nameOf claim ready trace entry ∧
      Kept book (reports ++ [entry]) t := by
  obtain ⟨began, rest, rfl, going⟩ := Action.of_tell_bind path
  obtain ⟨waited, first, second, rfl, awaited, telling⟩ := Action.of_lift_bind going
  obtain ⟨start, looks, message, ending, rfl, polls, answered⟩ := of_awaitReady awaited
  have calm : Calm book ((⟨.now, began⟩ :: ⟨.now, start⟩ :: looks) ++ second) s t := calm
  obtain ⟨middle, waiting, after⟩ := calm.split
  have looking : Apart (.writing .backupSession) looks := apart_of_polls polls nofun nofun
  have kept := kept.quiet waiting (by simpa [Request.reach, SessionKind.resource] using looking)
  cases waited with
  | ok =>
    obtain ⟨now, rest, rfl, recording⟩ := Backup.of_elapsedSince_bind telling
    have after : Calm book ([⟨.now, now⟩] ++ rest) middle t := after
    obtain ⟨later, reading, last⟩ := after.split
    have kept := kept.quiet reading (by simp [Request.reach, SessionKind.resource])
    obtain ⟨told, _, _, rfl, aside, kept, quiet, publishing⟩ :=
      kept_bind (kept_record kept) recording last
    obtain ⟨_, _, rfl, ended⟩ := Action.of_tell_bind publishing
    obtain ⟨rfl, rfl⟩ := Path.of_done ended
    refine ⟨true, _, rfl, waits_of_polls polls (by simpa using answered) ?_ rfl rfl,
      kept.quiet quiet (by simp [Request.reach, SessionKind.resource])⟩
    exact ⟨by simpa [Request.reach] using aside.1, by simpa [Request.reach] using aside.2⟩
  | error message =>
    obtain ⟨told, last, _, rfl, aside, kept, quiet, ended⟩ :=
      kept_bind (kept_recordFailure kept) telling after
    obtain ⟨rfl, rfl⟩ := Path.of_done ended
    exact ⟨false, _, rfl, waits_of_polls polls (by simpa using answered) (by simpa using aside) rfl rfl,
      kept.quiet quiet (apart_nil _)⟩

end

section

/-- Claims that are gone through one after another, those that are kept of them, and what is reported
of each one. -/
inductive Each (visits : String → Bool → List (Exchange Request) → HostEntry → Prop) :
    List String → List String → List (Exchange Request) → List HostEntry → Prop where
  | nil : Each visits [] [] [] []
  | cons {claim : String} {keep : Bool} {part later : List (Exchange Request)} {entry : HostEntry}
      {rest kept : List String} {reports : List HostEntry} :
      visits claim keep part entry → Each visits rest kept later reports →
      Each visits (claim :: rest) (if keep then claim :: kept else kept) (part ++ later)
        (entry :: reports)

variable {visits : String → Bool → List (Exchange Request) → HostEntry → Prop}
  {claims passed : List String}

theorem kept_filterEach {test : String → Action Bool}
    (one : ∀ {claim part outcome s t reports}, Kept book reports s →
      Path (test claim).run part (.done outcome) → Calm book part s t →
      ∃ keep entry, outcome = .ok keep ∧ visits claim keep part entry ∧
        Kept book (reports ++ [entry]) t)
    {result : Except Failure (List String)} (kept : Kept book reports s)
    (path : Path (filterEach test claims).run trace (.done result)) (calm : Calm book trace s t) :
    ∃ passed new, result = .ok passed ∧ Each visits claims passed trace new ∧
      Kept book (reports ++ new) t := by
  -- The induction is on the claims. What the earlier ones have reported is in the session already.
  induction claims generalizing trace s reports result with
  | nil =>
    obtain ⟨rfl, rfl⟩ := Path.of_done path
    exact ⟨[], [], rfl, .nil, by simpa using kept.quiet calm (apart_nil _)⟩
  | cons claim rest ih =>
    rcases Path.of_bind_ok path with ⟨_, rfl, broken⟩ | ⟨keep, part, later, rfl, tested, going⟩
    · obtain ⟨_, _, impossible, _⟩ := one kept broken calm
      cases impossible
    obtain ⟨between, before, after⟩ := calm.split
    obtain ⟨_, entry, same, visited, kept⟩ := one kept tested before
    cases same
    rcases Path.of_bind_ok going with ⟨_, rfl, broken⟩ | ⟨others, later, last, rfl, filtered, ended⟩
    · obtain ⟨_, _, impossible, _⟩ := ih kept broken after
      cases impossible
    obtain ⟨rfl, rfl⟩ := Path.of_done ended
    rw [List.append_nil] at after ⊢
    obtain ⟨_, new, same, each, kept⟩ := ih kept filtered after
    cases same
    exact ⟨_, entry :: new, rfl, .cons visited each, by simpa using kept⟩

namespace Each

variable (each : Each visits claims passed trace reports)
  (named : ∀ {claim keep part entry}, visits claim keep part entry → entry.host = claim)

include each named

theorem map_host : reports.map (·.host) = claims := by
  induction each with
  | nil => rfl
  | cons visited _ ih => rw [List.map_cons, named visited, ih]

theorem map_host_filter {p : HostEntry → Bool}
    (keeps : ∀ {claim keep part entry}, visits claim keep part entry → keep = p entry) :
    (reports.filter p).map (·.host) = passed := by
  induction each with
  | nil => rfl
  | cons visited _ ih =>
    rw [List.filter_cons, ← keeps visited]
    split
    · rw [List.map_cons, named visited, ih]
    · exact ih

theorem of_report {entry : HostEntry} (reported : entry ∈ reports) :
    ∃ keep part, visits entry.host keep part entry ∧ part <:+: trace := by
  induction each with
  | nil => cases reported
  | @cons _ keep part later entry _ _ _ visited _ ih =>
    rcases List.mem_cons.mp reported with rfl | reported
    · exact ⟨keep, part, named visited ▸ visited, (List.prefix_append part later).isInfix⟩
    · obtain ⟨keep, other, visited, within⟩ := ih reported
      exact ⟨keep, other, visited, within.trans (List.suffix_append part later).isInfix⟩

theorem of_exchange {e : Exchange Request} (member : e ∈ trace) :
    ∃ entry keep part, entry ∈ reports ∧ visits entry.host keep part entry ∧ e ∈ part := by
  induction each with
  | nil => cases member
  | @cons _ keep part later entry _ _ _ visited _ ih =>
    rcases List.mem_append.mp member with here | member
    · exact ⟨entry, keep, part, List.mem_cons_self, named visited ▸ visited, here⟩
    · obtain ⟨other, keep, part, reported, visited, here⟩ := ih member
      exact ⟨other, keep, part, List.mem_cons_of_mem _ reported, visited, here⟩

end Each

end

section

variable {snapshotOf : String → Snapshot} {nameOf : String → String} {claims passed : List String}

theorem Begins.of_create {began : Bool} {reply : Except Failure Snapshot}
    (begins : Begins snapshotOf claim began trace entry)
    (member : ⟨.create .snapshot snapshot, reply⟩ ∈ trace) :
    snapshot = snapshotOf claim ∧ entry.phase = if reply.isOk then .running else .failed := by
  obtain ⟨answer, rest, rfl, rfl, aside⟩ := begins.asks
  rcases List.mem_cons.mp member with same | later
  · cases same
    exact ⟨rfl, begins.phase⟩
  · exact absurd rfl (aside.2 _ later)

section

variable (each : Each (Begins snapshotOf) claims passed trace reports)

include each

theorem Each.of_create {reply : Except Failure Snapshot}
    (member : ⟨.create .snapshot snapshot, reply⟩ ∈ trace) :
    ∃ b ∈ reports, snapshot = snapshotOf b.host ∧
      b.phase = if reply.isOk then .running else .failed := by
  obtain ⟨b, _, _, reported, begins, here⟩ := each.of_exchange (·.host) member
  exact ⟨b, reported, begins.of_create here⟩

theorem Each.creates {b : HostEntry} (reported : b ∈ reports) :
    ∃ reply, ⟨.create .snapshot (snapshotOf b.host), reply⟩ ∈ trace ∧
      b.phase = if reply.isOk then .running else .failed := by
  obtain ⟨_, _, begins, within⟩ := each.of_report (·.host) reported
  obtain ⟨reply, rest, rfl, rfl, _⟩ := begins.asks
  exact ⟨reply, within.subset List.mem_cons_self, begins.phase⟩

theorem Each.unread : Apart (.reading .snapshot) trace := by
  intro e member
  obtain ⟨_, _, _, _, begins, here⟩ := each.of_exchange (·.host) member
  obtain ⟨reply, rest, rfl, _, aside⟩ := begins.asks
  rcases List.mem_cons.mp here with rfl | later
  · exact nofun
  · exact aside.1 e later

end

section

variable (each : Each (Waits patience nameSpace nameOf) claims passed trace reports)

include each

theorem Each.uncreated : Apart (.writing .snapshot) trace := by
  intro e member
  obtain ⟨_, _, _, _, waits, here⟩ := each.of_exchange (·.host) member
  exact waits.uncreated e here

theorem Each.of_sees {otherSpace other : String} (sees : Sees otherSpace other trace) :
    ∃ r ∈ reports, other = nameOf r.host ∧ r.phase = .succeeded := by
  obtain ⟨found, ready, member⟩ := sees
  obtain ⟨r, _, _, reported, waits, here⟩ := each.of_exchange (·.host) member
  obtain ⟨same, rfl⟩ := waits.seen _ _ ⟨found, ready, here⟩
  exact ⟨r, reported, same, waits.phase⟩

theorem Each.inTime {r : HostEntry} (reported : r ∈ reports) (succeeded : r.phase = .succeeded) :
    SeesInTime patience nameSpace (nameOf r.host) trace := by
  obtain ⟨ready, part, waits, within⟩ := each.of_report (·.host) reported
  have phase := waits.phase
  rw [succeeded] at phase
  cases ready with
  | false => cases phase
  | true =>
    obtain ⟨began, start, before, found, ready, inTime, looked⟩ := waits.inTime rfl
    exact ⟨began, start, before, found, ready, inTime, looked.trans within⟩

end

end

section

/-- What is reached while snapshots are taken. -/
def passReach : List Reach :=
  [.reading .backupSession, .writing .backupSession, .reading .snapshot, .writing .snapshot, .clock,
    .events]

theorem record_passReach (book : Book) (entry : HostEntry) :
    (book.record entry).Touches passReach :=
  (record_touches book entry).mono (by decide)

theorem recordFailure_touches (book : Book) (claim message : String) :
    (book.recordFailure claim message).Touches passReach :=
  .bind (record_passReach book _) fun _ => .tell (by simp [passReach, Request.reach])

theorem createOne_touches (book : Book) (snapshot : Snapshot) (claim : String) :
    (createOne book snapshot claim).Touches passReach := by
  refine .bind (.attempt (.ask (by simp [passReach, Request.reach]))) fun reply => ?_
  cases reply with
  | ok _ => exact .bind (record_passReach book _) fun _ => .pure _
  | error _ => exact .bind (recordFailure_touches book _ _) fun _ => .pure _

theorem awaitReady_touches (patience : Patience) (nameSpace name : String) :
    Touches passReach (awaitReady patience nameSpace name) := by
  have looks : Touches passReach (look nameSpace name) := by
    refine Within.bind_ok (.ask (by simp [passReach])) fun found => ?_
    cases found with
    | none => trivial
    | some snapshot =>
      change Touches passReach (ExceptT.run (m := Program Request)
        (match Snapshot.errorMessage? snapshot with
        | some message => return some (Except.error message)
        | none => return if Snapshot.isReady snapshot then some (Except.ok ()) else none))
      cases Snapshot.errorMessage? snapshot <;> trivial
  refine .bind (within_pollFor looks (by simp [passReach, Request.reach, Timed.now])
    fun _ => by simp [passReach, Request.reach, Timed.sleep]) fun waited => ?_
  cases waited <;> trivial

theorem awaitOne_touches (book : Book) (patience : Patience) (claim name : String) :
    (awaitOne book patience claim name).Touches passReach := by
  have waits : Action.Touches passReach (ExceptT.lift (awaitReady patience book.nameSpace name)) :=
    Within.bind (awaitReady_touches patience book.nameSpace name) fun _ => trivial
  refine .bind (.tell (by simp [passReach, Request.reach])) fun _ => .bind waits fun waited => ?_
  cases waited with
  | ok _ =>
    exact .bind ((Backup.elapsedSince_touches _).mono (by decide)) fun _ =>
      .bind (record_passReach book _) fun _ =>
        .bind (.tell (by simp [passReach, Request.reach])) fun _ => .pure _
  | error _ => exact .bind (recordFailure_touches book _ _) fun _ => .pure _

theorem filterEach_touches {reach : List Reach} {test : String → Action Bool}
    (each : ∀ claim, (test claim).Touches reach) (claims : List String) :
    (filterEach test claims).Touches reach := by
  induction claims with
  | nil => exact .pure _
  | cons claim rest ih => exact .bind (each claim) fun _ => .bind ih fun _ => .pure _

end

end ClusterBackup.Snapshots
