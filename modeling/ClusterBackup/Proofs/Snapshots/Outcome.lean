import ClusterBackup.Proofs.Snapshots.Course
import ClusterBackup.Proofs.Snapshots.Passes

/-! What a session has in it when snapshots of the claims of a workload have been taken.

There is one entry for each claim, at its end. But a claim that the workload mounts twice is counted
twice: its second snapshot is refused, and the session waits for one more host than there is. -/

set_option autoImplicit false

namespace ClusterBackup.Snapshots

open Program Simulation Hosts

variable {claims : List String} {begun ended : List HostEntry} {e : HostEntry}

theorem bmod_le_self (n m : Nat) : Int.bmod n m ≤ n := by
  have within := Nat.mod_le n m
  rw [Int.bmod_def, ← Int.natCast_emod]
  split <;> omega

theorem totalOf_le (claims : List String) : totalOf claims ≤ claims.length :=
  bmod_le_self claims.length Number.limit32

theorem totalOf_of_le (few : (claims.length : Int) ≤ Number.greatest32) :
    totalOf claims = claims.length := by
  have half : (claims.length : Int) * 2 < Number.limit32 := by
    simp only [Number.greatest32, Number.limit32] at few ⊢
    omega
  exact Int.bmod_eq_of_le_mul_two (by omega) half

theorem expected_le {status : SessionStatus} {total : Int} {most : Nat}
    (counted : status.totalHosts = some total) (bound : total ≤ most) :
    ∀ n ∈ status.expected, n ≤ most := by
  intro n expected
  rw [SessionStatus.expected, counted, Option.bind_some] at expected
  split at expected
  · cases expected
  · obtain rfl := Option.some.inj expected
    omega

theorem expected_eq {status : SessionStatus} {n : Nat} (counted : status.totalHosts = some (n : Int)) :
    status.expected = some n := by
  simp [SessionStatus.expected, counted]

theorem nameAt_inj {claim other : String} {time : Instant}
    (same : Snapshot.nameAt claim time = Snapshot.nameAt other time) : claim = other := by
  simpa [Snapshot.nameAt, String.append_assoc] using same

variable {setting : Setting} {patience : Patience} {nameSpace name : String} {time : Instant}
  {trace : List (Exchange Request)} {result : Except Failure Unit} {s t : Store}

/-- A snapshot of the claim was created, and then found ready in time. -/
def Seen (patience : Patience) (claim : String) (trace : List (Exchange Request)) : Prop :=
  ∃ (snapshot : Snapshot) (made : Snapshot), snapshot.spec.claim = some claim ∧
    ⟨.create .snapshot snapshot, .ok made⟩ ∈ trace ∧
    SeesInTime patience (Resource.nameSpace snapshot) (Resource.name snapshot) trace

def Refused (claim : String) (trace : List (Exchange Request)) : Prop :=
  ∃ (snapshot : Snapshot) (failure : Failure), snapshot.spec.claim = some claim ∧
    ⟨.create .snapshot snapshot, .error failure⟩ ∈ trace

/-- The two passes over the claims, after all that they go by has been looked up. -/
def takeAll (book : Book) (patience : Patience) (snapshotOf : String → Snapshot)
    (nameOf : String → String) (claims : List String) : Action Unit := do
  let pending ← filterEach (fun claim => createOne book (snapshotOf claim) claim) claims
  let ready ← filterEach (fun claim => awaitOne book patience claim (nameOf claim)) pending
  let failed := claims.length - ready.length
  if 0 < failed then
    throw (.validation (Number.textOf failed ++ " of " ++ Number.textOf claims.length
      ++ " VolumeSnapshots failed for BackupSession " ++ book.nameSpace ++ "/" ++ book.session))

/-- What belongs to the claims of a workload when their snapshots are taken. -/
structure Prepared (nameSpace name : String) (time : Instant) (claims : List String) (book : Book)
    (snapshotOf : String → Snapshot) : Prop where
  inSpace : book.nameSpace = nameSpace
  session : book.session = name
  total : book.total = totalOf claims
  claim : ∀ claim, (snapshotOf claim).spec.claim = some claim
  key : ∀ claim, Resource.nameSpace (snapshotOf claim) = nameSpace ∧
    Resource.name (snapshotOf claim) = Snapshot.nameAt claim time

theorem takeAll_touches (book : Book) (patience : Patience) (snapshotOf : String → Snapshot)
    (nameOf : String → String) (claims : List String) :
    (takeAll book patience snapshotOf nameOf claims).Touches passReach := by
  refine .bind (filterEach_touches (fun claim => createOne_touches book _ claim) claims) fun pending =>
    .bind (filterEach_touches (fun claim => awaitOne_touches book patience claim _) pending)
      fun ready => ?_
  dsimp only
  split
  · exact .throw _
  · exact .pure _

theorem of_take {kind : Cluster.WorkloadKind} {space target : String} {workload : Cluster.Workload}
    (path : Path (take setting patience nameSpace name time).run trace (.done result))
    (targeted : ⟨.workload kind space target, .ok (some workload)⟩ ∈ trace)
    (mounted : workload.claimNames ≠ []) :
    ∃ head rest book snapshotOf, trace = head ++ rest ∧ Apart (.writing .backupSession) head ∧
      Aside head ∧ Prepared nameSpace name time workload.claimNames book snapshotOf ∧
      Path (takeAll book patience snapshotOf (Snapshot.nameAt · time) workload.claimNames).run rest
        (.done result) := by
  have away {part : List (Exchange Request)} (apart : Apart .workloads part)
      (targeted : ⟨.workload kind space target, .ok (some workload)⟩ ∈ part) : False :=
    apart _ targeted rfl
  rcases Action.of_lookup_bind path with ⟨_, rfl, _⟩ | ⟨session, rest, rfl, configured⟩
  · exact (away (by simp) targeted).elim
  rcases Action.of_lookup_bind configured with ⟨_, rfl, _⟩ | ⟨config, rest, rfl, aimed⟩
  · exact (away (by simp) targeted).elim
  rcases Action.of_found_bind aimed with rfl | ⟨aim, parsed⟩
  · exact (away (by simp) targeted).elim
  rcases Action.of_ofExcept_bind parsed with rfl | ⟨kind', looked⟩
  · exact (away (by simp) targeted).elim
  let configuration := session.spec.configuration
  let head : List (Exchange Request) :=
    [⟨.get .backupSession nameSpace name, .ok (some session)⟩,
      ⟨.get .configuration nameSpace configuration, .ok (some config)⟩]
  rcases List.mem_append.mp (show _ ∈ head ++ rest from targeted) with before | targeted
  · exact (away (by simp [head]) before).elim
  rcases Action.of_lookup_bind looked with ⟨reply, rfl, missing⟩ | ⟨found, rest, rfl, taking⟩
  · cases List.mem_singleton.mp targeted
    exact absurd rfl (missing workload)
  let book : Book :=
    { policy := setting.policy, nameSpace, session := name, object := session.reference,
      total := totalOf found.claimNames }
  let all := takeAll book patience (snapshotOf nameSpace configuration aim.snapshotClass time)
    (Snapshot.nameAt · time) found.claimNames
  have checked : Path (if found.claimNames.isEmpty = true then
      (throw (.validation (found.describe ++ " has no PersistentVolumeClaims to snapshot")) >>=
        fun _ => all : Action Unit) else all).run rest (.done result) := taking
  -- No other workload is looked up, so the one that was found is the one with the claims.
  have same : Apart .workloads rest → found = workload := by
    intro apart
    rcases List.mem_cons.mp targeted with same | later
    · cases same
      rfl
    · exact (away apart later).elim
  by_cases empty : found.claimNames.isEmpty = true
  · rw [if_pos empty] at checked
    obtain ⟨rfl, rfl⟩ := Path.of_done checked
    obtain rfl := same (apart_nil _)
    exact absurd (List.isEmpty_iff.mp empty) mounted
  · rw [if_neg empty] at checked
    obtain rfl := same (Touches.apart (takeAll_touches ..) checked (by decide))
    refine ⟨head ++ [⟨.workload kind' nameSpace aim.name, .ok (some found)⟩], rest, book, _, ?_, ?_, ?_,
      ⟨rfl, rfl, by dsimp only [book], fun _ => rfl, fun _ => ⟨rfl, rfl⟩⟩, checked⟩
    · rfl
    · simp [head, Request.reach]
    · exact ⟨by simp [head, Request.reach], by simp [head, Request.reach]⟩

theorem of_takeAll {book : Book} {snapshotOf : String → Snapshot} {nameOf : String → String}
    (kept : Kept book [] s)
    (path : Path (takeAll book patience snapshotOf nameOf claims).run trace (.done result))
    (calm : Calm book trace s t) :
    ∃ first second pending ready begun ended, trace = first ++ second ∧
      Each (Begins snapshotOf) claims pending first begun ∧
      Each (Waits patience book.nameSpace nameOf) pending ready second ended ∧
      Kept book (begun ++ ended) t ∧ (result.isOk = true ↔ claims.length ≤ ready.length) := by
  -- Nobody else writes the session and the calls for it succeed, so neither pass breaks off.
  rcases Path.of_bind_ok path with ⟨_, rfl, broken⟩ | ⟨pending, first, rest, rfl, created, going⟩
  · obtain ⟨_, _, impossible, _⟩ := kept_filterEach kept_createOne kept broken calm
    cases impossible
  obtain ⟨between, before, after⟩ := calm.split
  obtain ⟨_, begun, same, begins, kept⟩ := kept_filterEach kept_createOne kept created before
  cases same
  rcases Path.of_bind_ok going with ⟨_, rfl, broken⟩ | ⟨ready, second, last, rfl, awaited, checked⟩
  · obtain ⟨_, _, impossible, _⟩ := kept_filterEach kept_awaitOne kept broken after
    cases impossible
  obtain ⟨later, waiting, quiet⟩ := after.split
  obtain ⟨_, ended, same, waits, kept⟩ := kept_filterEach kept_awaitOne kept awaited waiting
  cases same
  dsimp only at checked
  split at checked
  · obtain ⟨rfl, rfl⟩ := Path.of_done checked
    exact ⟨first, second, pending, ready, begun, ended, by simp, begins, waits,
      by simpa using kept.quiet quiet (apart_nil _), iff_of_false nofun (by omega)⟩
  · obtain ⟨rfl, rfl⟩ := Path.of_done checked
    exact ⟨first, second, pending, ready, begun, ended, by simp, begins, waits,
      by simpa using kept.quiet quiet (apart_nil _), iff_of_true rfl (by omega)⟩

theorem passes_of_each {snapshotOf : String → Snapshot} {nameOf : String → String}
    {pending ready : List String} {first second : List (Exchange Request)}
    (begins : Each (Begins snapshotOf) claims pending first begun)
    (waits : Each (Waits patience nameSpace nameOf) pending ready second ended) :
    Passes claims begun ended := by
  refine ⟨begins.map_host (·.host), ?_, fun e member => ?_, fun e member => ?_⟩
  · rw [waits.map_host (·.host)]
    refine (begins.map_host_filter (·.host) fun {_ keep _ entry} visit => ?_).symm
    rw [visit.phase]
    cases keep <;> rfl
  · obtain ⟨keep, _, visit, _⟩ := begins.of_report (·.host) member
    rw [visit.phase]
    cases keep <;> simp
  · obtain ⟨keep, _, visit, _⟩ := waits.of_report (·.host) member
    rw [visit.phase]
    cases keep <;> simp

/-- The claims that are ready are those that have succeeded. -/
theorem length_ready {nameOf : String → String} {pending ready : List String}
    (waits : Each (Waits patience nameSpace nameOf) pending ready trace ended) :
    ready.length = (ended.filter (·.phase == .succeeded)).length := by
  have kept : (ended.filter (·.phase == .succeeded)).map (·.host) = ready := by
    refine waits.map_host_filter (·.host) fun {_ keep _ entry} visit => ?_
    rw [visit.phase]
    cases keep <;> rfl
  rw [← kept, List.length_map]

/-- What the exchanges tell of the reports of both passes. -/
structure Followed (patience : Patience) (nameSpace : String) (time : Instant)
    (trace : List (Exchange Request)) (begun ended : List HostEntry) : Prop where
  created : ∀ {snapshot : Snapshot} {reply : Except Failure Snapshot},
    ⟨.create .snapshot snapshot, reply⟩ ∈ trace → ∃ b ∈ begun, snapshot.spec.claim = some b.host ∧
      Resource.name snapshot = Snapshot.nameAt b.host time ∧
      b.phase = if reply.isOk then .running else .failed
  creates : ∀ b ∈ begun, b.phase = .running → ∃ (snapshot : Snapshot) (made : Snapshot),
    snapshot.spec.claim = some b.host ∧ ⟨.create .snapshot snapshot, .ok made⟩ ∈ trace ∧
      Resource.nameSpace snapshot = nameSpace ∧ Resource.name snapshot = Snapshot.nameAt b.host time
  sees : ∀ {otherSpace other : String}, Sees otherSpace other trace →
    ∃ r ∈ ended, other = Snapshot.nameAt r.host time ∧ r.phase = .succeeded
  inTime : ∀ r ∈ ended, r.phase = .succeeded →
    SeesInTime patience nameSpace (Snapshot.nameAt r.host time) trace

theorem SeesInTime.sees {space other : String} (seen : SeesInTime patience space other trace) :
    Sees space other trace := by
  obtain ⟨_, _, _, found, ready, _, within⟩ := seen
  exact ⟨found, ready, within.subset (by simp)⟩

namespace Followed

variable (followed : Followed patience nameSpace time trace begun ended)
  (passes : Passes claims begun ended)

include followed passes

theorem seen (member : e ∈ heard (begun ++ ended)) (succeeded : e.phase = .succeeded) :
    Seen patience e.host trace ∧ ¬ Refused e.host trace := by
  have waited := passes.mem_ended_of_succeeded member succeeded
  obtain ⟨b, present, host, running⟩ := passes.running_of_ended waited
  obtain ⟨snapshot, made, claim, created, inSpace, named⟩ := followed.creates b present running
  refine ⟨⟨snapshot, made, host ▸ claim, created, ?_⟩, ?_⟩
  · rw [inSpace, named, host]
    exact followed.inTime e waited succeeded
  · rintro ⟨snapshot, failure, claim, refused⟩
    obtain ⟨b, present, same, _, failed⟩ := followed.created refused
    have host := Option.some.inj (same.symm.trans claim)
    rw [passes.failed_of_refused member present host failed] at succeeded
    cases succeeded

theorem once (member : e ∈ heard (begun ++ ended)) (single : claims.count e.host = 1)
    (seen : Seen patience e.host trace) : e.phase = .succeeded := by
  obtain ⟨snapshot, made, claim, created, inTime⟩ := seen
  obtain ⟨b, _, same, named, _⟩ := followed.created created
  obtain ⟨r, waited, looked, succeeded⟩ := followed.sees inTime.sees
  have host : r.host = e.host := calc
    r.host = b.host := nameAt_inj (looked.symm.trans named)
    _ = e.host := Option.some.inj (same.symm.trans claim)
  rw [passes.eq_of_once (Nat.le_of_eq single) member waited host, succeeded]

end Followed

theorem followed_of_each {book : Book} {snapshotOf : String → Snapshot} {pending ready : List String}
    {head first second : List (Exchange Request)}
    (prepared : Prepared nameSpace name time claims book snapshotOf) (aside : Aside head)
    (begins : Each (Begins snapshotOf) claims pending first begun)
    (waits : Each (Waits patience nameSpace (Snapshot.nameAt · time)) pending ready second ended) :
    Followed patience nameSpace time (head ++ (first ++ second)) begun ended := by
  refine ⟨fun {snapshot reply} member => ?_, fun b present running => ?_, fun sees => ?_,
    fun r present succeeded => ?_⟩
  · rcases List.mem_append.mp member with early | member
    · exact absurd rfl (aside.2 _ early)
    rcases List.mem_append.mp member with here | late
    · obtain ⟨b, reported, rfl, phase⟩ := begins.of_create here
      exact ⟨b, reported, prepared.claim b.host, (prepared.key b.host).2, phase⟩
    · exact absurd rfl (waits.uncreated _ late)
  · obtain ⟨reply, asked, phase⟩ := begins.creates present
    cases reply with
    | error failure => cases running.symm.trans phase
    | ok made =>
      exact ⟨_, made, prepared.claim b.host, by simp [asked], (prepared.key b.host).1,
        (prepared.key b.host).2⟩
  · rw [sees_append, or_iff_right (not_sees aside.1), sees_append,
      or_iff_right (not_sees begins.unread)] at sees
    exact waits.of_sees sees
  · obtain ⟨began, start, before, found, ready, inTime, looked⟩ := waits.inTime present succeeded
    refine ⟨began, start, before, found, ready, inTime, looked.trans ?_⟩
    rw [← List.append_assoc]
    exact (List.suffix_append _ second).isInfix

/-- What a session has in it when snapshots of the claims have been taken. -/
structure Taken (patience : Patience) (claims : List String) (trace : List (Exchange Request))
    (result : Except Failure Unit) (session : BackupSession) : Prop where
  hosts : ((SessionKind.backup.hosts session).map (·.host)).Perm claims.dedup
  total : (session.status.getD {}).totalHosts = some (totalOf claims)
  ended : ∀ e ∈ SessionKind.backup.hosts session, e.phase.isTerminal = true
  seen : ∀ e ∈ SessionKind.backup.hosts session, e.phase = .succeeded →
    Seen patience e.host trace ∧ ¬ Refused e.host trace
  once : ∀ e ∈ SessionKind.backup.hosts session, claims.count e.host = 1 →
    Seen patience e.host trace → e.phase = .succeeded
  distinct : claims.Nodup →
    SessionKind.backup.phase session = if result.isOk then .succeeded else .failed
  repeated : ¬ claims.Nodup → (claims.length : Int) ≤ Number.greatest32 →
    SessionKind.backup.phase session = .running

/-- Every claim has one entry, which is at its end. It has succeeded only if a snapshot was created and
seen ready in time, and if none was refused; a claim that is mounted once has succeeded exactly then.
The session has ended with the outcome of the call if no claim is mounted twice. If one is, it waits
for more hosts than there are. -/
theorem take_records {kind : Cluster.WorkloadKind} {space target : String}
    {workload : Cluster.Workload} {session : BackupSession}
    (path : Path (take setting patience nameSpace name time).run trace (.done result))
    (undisturbed : SessionKind.backup.Undisturbed nameSpace name trace s t)
    (found : s.find? .backupSession nameSpace name = some session)
    (fresh : SessionKind.backup.hosts session = [])
    (targeted : ⟨.workload kind space target, .ok (some workload)⟩ ∈ trace)
    (mounted : workload.claimNames ≠ []) :
    ∃ after, t.find? .backupSession nameSpace name = some after ∧
      Taken patience workload.claimNames trace result after := by
  obtain ⟨head, rest, book, snapshotOf, rfl, unwritten, aside, prepared, taking⟩ :=
    of_take path targeted mounted
  obtain ⟨rfl, rfl, total, _, _⟩ := id prepared
  obtain ⟨between, looking, calm⟩ := undisturbed.split
  have fresh : Kept book [] s := .of_fresh found fresh
  have kept : Kept book [] between := fresh.quiet looking unwritten
  obtain ⟨first, second, pending, ready, begun, ended, rfl, begins, waits, kept, outcome⟩ :=
    of_takeAll kept taking calm
  -- The reports of both passes are all that the session was told, so its entries and phase are
  -- theirs.
  have passes := passes_of_each begins waits
  have followed := followed_of_each prepared aside begins waits
  obtain ⟨after, stored, noted⟩ := kept
  have some : begun ++ ended ≠ [] := by
    intro none
    have first := passes.first
    rw [(List.append_eq_nil_iff.mp none).1] at first
    exact mounted first.symm
  obtain ⟨counted, phase⟩ := noted.begun some
  have hosts : SessionKind.backup.hosts after = heard (begun ++ ended) := noted.hosts
  have overall : SessionKind.backup.phase after =
      Hosts.phase (heard (begun ++ ended))
        ((SessionKind.backup.status? after).getD {}).expected := by
    rw [← hosts]
    exact phase
  rw [total] at counted
  refine ⟨after, stored, ?_, counted, ?_, ?_, ?_, fun distinct => ?_, fun repeated few => ?_⟩
  · rw [hosts]
    exact passes.perm_dedup
  · rw [hosts]
    exact fun e => passes.isTerminal_of_mem
  · rw [hosts]
    exact fun e => followed.seen passes
  · rw [hosts]
    exact fun e => followed.once passes
  · rw [overall, passes.phase_of_nodup distinct mounted (expected_le counted (totalOf_le _)),
      ← length_ready waits]
    split
    · rename_i short
      rw [if_neg fun succeeded => absurd (outcome.mp succeeded) (Nat.not_le.mpr short)]
    · rename_i full
      rw [if_pos (outcome.mpr (Nat.not_lt.mp full))]
  · rw [totalOf_of_le few] at counted
    rw [overall, expected_eq counted]
    exact passes.phase_of_repeated repeated

section

/-- Two volumes of one claim. -/
def mounting : Cluster.PodSpec :=
  { containers := []
    volumes := some [{ name := "a", claim := some { name := "data" } },
      { name := "b", claim := some { name := "data" } }] }

def twice : Cluster.Workload :=
  { kind := .deployment
    metadata := Cluster.Metadata.named "apps" "web"
    spec := some { template := some { spec := some mounting } } }

def nightly : Configuration :=
  { metadata := Cluster.Metadata.named "apps" "nightly"
    spec := { backend := {}, target := some { kind := "Deployment", name := "web" } } }

def tonight : BackupSession :=
  { metadata := Cluster.Metadata.named "apps" "tonight", spec := ⟨"nightly"⟩ }

def initial : Store :=
  (Store.accept (Store.accept {} .configuration nightly).2 .backupSession tonight).2

def readied (nameSpace name : String) (s : Store) : Store :=
  match s.find? .snapshot nameSpace name with
  | some snapshot => (s.accept .snapshot { snapshot with status := some { ready := some true } }).2
  | none => s

/-- A snapshot is ready as soon as somebody looks at it. -/
def drive {β : Type} : Request β → Store → Store
  | .get .snapshot nameSpace name, s => readied nameSpace name s
  | _, s => s

theorem find?_drive {β : Type} (r : Request β) (s : Store) :
    (drive r s).find? .backupSession "apps" "tonight" =
      s.find? .backupSession "apps" "tonight" := by
  have readies (nameSpace name : String) :
      (readied nameSpace name s).find? .backupSession "apps" "tonight" =
        s.find? .backupSession "apps" "tonight" := by
    unfold readied
    split
    · exact Store.find?_accept_other _ _ fun same => nomatch same.1
    · rfl
  cases r with
  | get kind nameSpace name =>
    cases kind with
    | snapshot => exact readies nameSpace name
    | _ => rfl
  | _ => rfl

def deployed {β : Type} : Request β → β
  | .workload .. => .ok (some twice)
  | r => Store.quiet r

def patient : Patience := ⟨.ofSeconds 20, .ofSeconds 5⟩

def shared : List (Exchange Request) × Program Request (Except Failure Unit) × Store :=
  follow (fun r s => Store.serve deployed r (drive r s)) 60
    (take ⟨{}, .conflict⟩ patient "apps" "tonight" ⟨0, 0⟩).run initial

/-- Of a claim that is mounted twice, the snapshot is seen ready in time. But the claim has failed, and
the session does not end. -/
theorem take_records_shared : ∃ failure after,
    shared.2.2.find? .backupSession "apps" "tonight" = some after ∧
      Taken patient ["data", "data"] shared.1 (.error failure) after ∧
      Seen patient "data" shared.1 ∧ Refused "data" shared.1 ∧
      (SessionKind.backup.hosts after).map (·.phase) = [.failed] ∧
      SessionKind.backup.phase after = .running := by
  have path : Path (take ⟨{}, .conflict⟩ patient "apps" "tonight" ⟨0, 0⟩).run shared.1
      (.done (.error (.validation
        "1 of 2 VolumeSnapshots failed for BackupSession apps/tonight"))) :=
    follow_path _ 60 _ initial
  have explains : Explains (fun s e t => Store.Answers (drive e.request s) e t) shared.1 initial
      shared.2.2 :=
    follow_explains _ (fun r s => .inl (Store.honest_serve deployed r _)) 60 _ _
  have along : Along (SessionKind.backup.alone "apps" "tonight") shared.1 initial shared.2.2 :=
    Along.of_explains (fun s e t answers => ⟨_, find?_drive e.request s, answers, trivial⟩) explains
  have unbroken : ∀ e ∈ shared.1, SessionKind.backup.isBroken "apps" "tonight" e = false := by
    decide +kernel
  have targeted : ⟨.workload .deployment "apps" "web", .ok (some twice)⟩ ∈ shared.1 :=
    List.mem_of_getElem? (show shared.1[2]? = some _ by rfl)
  obtain ⟨after, stored, taken⟩ := take_records path ⟨along, unbroken⟩
    (show initial.find? .backupSession "apps" "tonight" = some (Store.withVersion 2 tonight) by rfl)
    (by rfl) targeted (by decide)
  have hosts : (shared.2.2.find? .backupSession "apps" "tonight").map (fun session =>
      (SessionKind.backup.hosts session).map (·.phase)) = some [.failed] := by rfl
  rw [stored] at hosts
  let asked : Snapshot := snapshotOf "apps" "nightly" none ⟨0, 0⟩ "data"
  let made : Snapshot := Store.withVersion 3 asked
  let ready : Snapshot := Store.withVersion 6 { made with status := some { ready := some true } }
  have created : ⟨.create .snapshot asked, .ok made⟩ ∈ shared.1 :=
    List.mem_of_getElem? (show shared.1[3]? = some _ by rfl)
  have refused : ⟨.create .snapshot asked,
      .error (.conflict "apps/data-1970-01-01t00-00-00-stash already exists")⟩ ∈ shared.1 :=
    List.mem_of_getElem? (show shared.1[6]? = some _ by rfl)
  have looked : [⟨.now, ⟨0⟩⟩, ⟨.now, ⟨0⟩⟩,
      ⟨.get .snapshot (Resource.nameSpace asked) (Resource.name asked), .ok (some ready)⟩] <:+:
        shared.1 :=
    ⟨shared.1.take 10, shared.1.drop 13, by rfl⟩
  exact ⟨_, after, stored, taken,
    ⟨asked, made, rfl, created, ⟨0⟩, ⟨0⟩, [], ready, ⟨rfl, rfl⟩, .inl rfl, looked⟩,
    ⟨asked, _, rfl, refused⟩, Option.some.inj hosts, taken.repeated (by decide) (by decide)⟩

end

end ClusterBackup.Snapshots
