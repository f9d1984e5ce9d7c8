import ClusterBackup.Proofs.Status.Update
import ClusterBackup.Run.Backup

/-! Which hosts a backup session takes in.

The phase of a session follows from what its hosts have reported. It ends when every host
that has reported has come to its end, and a session that has ended takes in no other host. -/

set_option autoImplicit false

universe v

namespace ClusterBackup

open Program Simulation Cluster

namespace Hosts

theorem isTerminal_phase_iff (entries : List HostEntry) (expected : Option Nat) :
    (phase entries expected).isTerminal = true ↔
      entries ≠ [] ∧ (∀ e ∈ entries, e.phase.isTerminal) ∧ ∀ n ∈ expected, n ≤ entries.length := by
  have enough : expected.all (· ≤ entries.length) = true ↔ ∀ n ∈ expected, n ≤ entries.length := by
    cases expected <;> simp
  have ended : entries.all (·.phase.isTerminal) = true ↔ ∀ e ∈ entries, e.phase.isTerminal :=
    List.all_eq_true
  unfold phase
  -- In this order: nobody has reported, a host is lost, all are at their end, or some still run.
  by_cases empty : entries.isEmpty = true
  · rw [if_pos empty]
    exact iff_of_false (by decide) fun all => all.1 (List.isEmpty_iff.mp empty)
  rw [if_neg empty]
  by_cases lost : entries.any (·.phase == .unknown) = true
  · rw [if_pos lost]
    refine iff_of_false (by decide) fun all => ?_
    obtain ⟨e, member, unknown⟩ := List.any_eq_true.mp lost
    have terminal := all.2.1 e member
    rw [beq_iff_eq.mp unknown] at terminal
    cases terminal
  rw [if_neg lost]
  by_cases ending : (expected.all (· ≤ entries.length) && entries.all (·.phase.isTerminal)) = true
  · rw [if_pos ending]
    obtain ⟨all, terminal⟩ := Bool.and_eq_true_iff.mp ending
    refine iff_of_true ?_ ⟨mt List.isEmpty_iff.mpr empty, ended.mp terminal, enough.mp all⟩
    split <;> rfl
  · rw [if_neg ending]
    exact iff_of_false (by decide) fun all =>
      ending (Bool.and_eq_true_iff.mpr ⟨enough.mpr all.2.2, ended.mpr all.2.1⟩)

theorem find?_put (entries : List HostEntry) (entry : HostEntry) :
    find? (put entry entries) entry.host = some entry := by
  induction entries with
  | nil => simp [put, find?]
  | cons e rest ih =>
    by_cases same : e.host = entry.host
    · simp [put, find?, same]
    · simpa [put, find?, same] using ih

theorem report?_of_absent {entries : List HostEntry} {entry : HostEntry}
    (absent : find? entries entry.host = none) :
    report? entries entry = some (put entry entries) := by
  simp [report?, absent]

end Hosts

namespace SessionStatus

/-- Some hosts have reported, as many as are waited for, and all of them have come to their end. -/
def IsFinished (s : SessionStatus) : Prop :=
  s.hosts ≠ [] ∧ (∀ e ∈ s.hosts, e.phase.isTerminal) ∧ ∀ n ∈ s.expected, n ≤ s.hosts.length

end SessionStatus

/-- One report of a host, and how it is written. -/
structure HostReport where
  policy : RetryPolicy
  entry : HostEntry
  total : Option Int

namespace SessionKind

variable (kind : SessionKind)

def update (r : HostReport) : Update kind.resource where
  policy := r.policy
  operation := kind.operation
  whole := false
  change := kind.report r.entry r.total

theorem regular (r : HostReport) : (kind.update r).Regular := by
  cases kind <;> exact ⟨fun _ _ => rfl, fun _ => rfl, fun _ => rfl⟩

/-- The recorded phase is the one that follows from the recorded hosts. -/
def Coherent (session : Resource kind.resource) : Prop :=
  ∀ s, kind.status? session = some s → s.phase = Hosts.phase s.hosts s.expected

theorem coherent_report (entry : HostEntry) (total : Option Int)
    (session : Resource kind.resource) :
    kind.Coherent (kind.report entry total session).1 := by
  have phase (s : SessionStatus) : (s.report entry total).1.phase =
      Hosts.phase (s.report entry total).1.hosts (s.report entry total).1.expected := by
    simp only [SessionStatus.report]
    split <;> rfl
  cases kind <;> rintro _ ⟨⟩ <;> exact phase _

theorem Coherent.stamped {session : Resource kind.resource} (coherent : kind.Coherent session)
    (version : Option String) : kind.Coherent (session.stamped version) := by
  cases kind <;> exact coherent

def begin {κ : Type v} (reports : κ → HostReport) (nameSpace name : String) (store : Store) :
    System Request (Ledger κ) (fun _ : κ => Except Failure Bool) where
  code c := (Status.reportHost (reports c).policy kind nameSpace name (reports c).entry
    (reports c).total).run
  state := ⟨store, []⟩

variable {kind} {κ : Type v} [DecidableEq κ] {reports : κ → HostReport} {nameSpace name : String}
  {store : Store} {initial session : Resource kind.resource}
  {y : System Request (Ledger κ) fun _ : κ => Except Failure Bool}

theorem coherent_of_reaches (numbered : store.IsNumbered)
    (found : store.find? kind.resource nameSpace name = some initial)
    (fresh : kind.Coherent initial)
    (reaches : System.Reaches Ledger.Records (kind.begin reports nameSpace name store) y)
    (stored : y.state.store.find? kind.resource nameSpace name = some session) :
    kind.Coherent session := by
  have updating : System.Reaches Ledger.Records (Updates.begin (fun c => kind.update (reports c))
      nameSpace name (fun _ x => x.1.map fun _ => x.2) store) y := reaches
  obtain ⟨serial, _⟩ := Updates.serial_of_reaches (fun c => kind.regular (reports c)) numbered found
    updating
  obtain ⟨object, _, here, _, _, content⟩ := serial.stored
  obtain rfl := Option.some.inj (stored.symm.trans here)
  rw [content]
  refine Coherent.stamped kind ?_ _
  -- The last accepted report has set the phase, if there was one.
  rcases List.eq_nil_or_concat y.state.accepted with none | ⟨before, c, last⟩
  · rw [none]
    exact fresh
  · rw [last, List.concat_eq_append, Updates.fold_append]
    exact kind.coherent_report _ _ _

end SessionKind

namespace SessionKind

variable {kind : SessionKind} {session : Resource kind.resource}

def hosts (kind : SessionKind) (session : Resource kind.resource) : List HostEntry :=
  ((kind.status? session).getD {}).hosts

theorem report_of_absent {entry : HostEntry}
    (absent : Hosts.find? (kind.hosts session) entry.host = none) (total : Option Int) :
    (kind.report entry total session).2 = true ∧
      Hosts.find? (kind.hosts (kind.report entry total session).1) entry.host = some entry := by
  have reported (s : SessionStatus) (absent : Hosts.find? s.hosts entry.host = none) :
      (s.report entry total).2 = true ∧
        Hosts.find? (s.report entry total).1.hosts entry.host = some entry := by
    simp only [SessionStatus.report, Hosts.report?_of_absent absent, true_and]
    exact Hosts.find?_put s.hosts entry
  cases kind <;> exact reported _ absent

/-- The session is stored, and has no entry for the host. -/
def Awaits (kind : SessionKind) (nameSpace name host : String) (s : Store) : Prop :=
  ∃ session, s.find? kind.resource nameSpace name = some session ∧
    Hosts.find? (kind.hosts session) host = none

def Reported (kind : SessionKind) (nameSpace name : String) (entry : HostEntry)
    (e : Exchange Request) : Prop :=
  ∃ object written, e = ⟨.replaceStatus kind.resource object, .ok written⟩ ∧
    object.nameSpace = nameSpace ∧ object.name = name ∧
    Hosts.find? (kind.hosts object) entry.host = some entry

theorem inevitable_reportHost {policy : RetryPolicy} {nameSpace name : String} {total : Option Int}
    {s : Store} {post : Except Failure Bool → Store → Prop} (entry : HostEntry)
    (awaits : Awaits kind nameSpace name entry.host s) :
    Inevitable (Store.Succeeds (Awaits kind nameSpace name entry.host))
      (Reported kind nameSpace name entry) post
      (Status.reportHost policy kind nameSpace name entry total).run s := by
  refine .bind (inevitable_readChangeWrite ((Store.inevitable_get nameSpace name awaits).weaken ?_))
  rintro _ t ⟨rfl, session, found, absent⟩
  have regular := kind.regular ⟨policy, entry, total⟩
  have reports := report_of_absent absent total
  obtain ⟨inSpace, called⟩ := Store.find?_key found
  rw [found]
  refine ⟨session, (kind.report entry total session).1, rfl, Prod.ext rfl reports.1, ?_⟩
  exact Store.inevitable_replaceStatus (regular.replaces found) fun written =>
    ⟨_, written, rfl, (regular.nameSpace session).trans inSpace,
      (regular.name session).trans called, reports.2⟩

end SessionKind

namespace Backup

variable {setting : Setting} {host : Host} {configuration nameSpace name : String}
  {session : BackupSession} {s : Store}

def running (host : Host) : HostEntry := { host := host.name, phase := .running }

theorem inevitable_hostPhase {goal : Exchange Request → Prop} {host : String}
    (awaits : SessionKind.backup.Awaits nameSpace name host s) :
    Inevitable (Store.Succeeds (SessionKind.backup.Awaits nameSpace name host)) goal
      (fun r t => r = .ok none ∧ SessionKind.backup.Awaits nameSpace name host t)
      (Status.hostPhase nameSpace name host).run s := by
  refine .bind_ok ((Store.inevitable_get nameSpace name awaits).weaken ?_)
  rintro _ t ⟨rfl, (session : BackupSession), found, absent⟩
  refine ⟨some session, congrArg Except.ok found, .done ⟨?_, session, found, absent⟩⟩
  have silent : (session.status.bind fun (s : SessionStatus) => Hosts.find? s.hosts host) =
      none := by
    cases status : session.status with
    | none => rfl
    | some s => simpa [SessionKind.hosts, SessionKind.status?, status] using absent
  rw [Option.bind_some, silent]
  rfl

theorem inevitable_runSession {post : Except Failure Unit → Store → Prop}
    (awaits : SessionKind.backup.Awaits nameSpace name host.name s) :
    Inevitable (Store.Succeeds (SessionKind.backup.Awaits nameSpace name host.name))
      (SessionKind.backup.Reported nameSpace name (running host)) post
      (runSession setting host nameSpace name).run s := by
  refine .bind_ok ((Store.inevitable_get nameSpace name awaits).weaken ?_)
  rintro _ t ⟨rfl, session, found, absent⟩
  refine ⟨some session, congrArg Except.ok found,
    .bind_ok ((inevitable_hostPhase ⟨session, found, absent⟩).weaken ?_)⟩
  rintro _ u ⟨rfl, awaits⟩
  exact ⟨none, rfl, .bind (SessionKind.inevitable_reportHost (running host) awaits)⟩

/-- An event of a session makes a host start its share. Its calls of the store succeed, and
between them others may change everything but that the session awaits the host; then the host
cannot miss to write that it runs its share. -/
def Starts (setting : Setting) (host : Host) (configuration : String) (session : BackupSession)
    (s : Store) : Prop :=
  Inevitable (Store.Succeeds
      (SessionKind.backup.Awaits session.nameSpace session.name host.name))
    (SessionKind.backup.Reported session.nameSpace session.name (running host)) (fun _ _ => False)
    (onSession setting host configuration session).run s

theorem wants_iff_unfinished (coherent : SessionKind.backup.Coherent session)
    (named : session.spec.configuration = configuration) (kept : session.metadata.deletion = none) :
    wants session configuration = true ↔
      ¬ ((SessionKind.backup.status? session).getD {}).IsFinished := by
  have ended (s : SessionStatus) (phase : s.phase = Hosts.phase s.hosts s.expected) :
      s.phase.isTerminal = true ↔ s.IsFinished := by
    rw [phase]
    exact Hosts.isTerminal_phase_iff s.hosts s.expected
  rw [wants, named, kept]
  cases status : session.status with
  | none =>
    simp [SessionKind.status?, status, SessionStatus.IsFinished]
  | some s =>
    have same := ended s (coherent s status)
    simp [SessionKind.status?, status, ← same]

theorem starts_iff_wants
    (awaits : SessionKind.backup.Awaits session.nameSpace session.name host.name s) :
    Starts setting host configuration session s ↔ wants session configuration = true := by
  unfold Starts onSession
  by_cases wanted : wants session configuration = true
  · rw [if_pos wanted]
    exact iff_of_true (.bind (.bind (inevitable_runSession awaits))) wanted
  · rw [if_neg wanted]
    refine iff_of_false (fun starts => ?_) wanted
    cases starts with
    | done impossible => exact impossible

section

variable {κ : Type v} [DecidableEq κ] {reports : κ → HostReport} {nameSpace name : String}
  {store : Store} {initial : BackupSession}
  {y : System Request (Ledger κ) fun _ : κ => Except Failure Bool}

/-- Whatever the hosts of a session have reported in whatever order, a host that has not yet
reported starts its share at an event of the session as it is stored, unless the session has
ended without it: that is when every host that has reported has come to its end and no more
hosts are waited for. -/
theorem starts_iff_unfinished (numbered : store.IsNumbered)
    (found : store.find? .backupSession nameSpace name = some initial)
    (fresh : SessionKind.backup.Coherent initial)
    (reaches : System.Reaches Ledger.Records
      (SessionKind.backup.begin reports nameSpace name store) y)
    (stored : y.state.store.find? .backupSession nameSpace name = some session)
    (named : session.spec.configuration = configuration) (kept : session.metadata.deletion = none)
    (absent : Hosts.find? (SessionKind.backup.hosts session) host.name = none) :
    Starts setting host configuration session y.state.store ↔
      ¬ ((SessionKind.backup.status? session).getD {}).IsFinished := by
  have coherent : SessionKind.backup.Coherent session :=
    SessionKind.coherent_of_reaches numbered found fresh reaches stored
  obtain ⟨inSpace, called⟩ := Store.find?_key stored
  rw [starts_iff_wants ⟨session, by rw [inSpace, called]; exact stored, absent⟩]
  exact wants_iff_unfinished coherent named kept

end

section

def created : BackupSession := { metadata := Metadata.named "apps" "nightly", spec := ⟨"db"⟩ }

/-- One of two hosts reports that it runs, and then that it has succeeded. -/
def alone : System Request (Ledger Bool) (fun _ : Bool => Except Failure Bool) :=
  (SessionKind.backup.begin (fun ended =>
      ⟨.conflict, { host := "db-0", phase := if ended then .succeeded else .running }, none⟩)
    "apps" "nightly" (Store.accept {} .backupSession created).2).play Ledger.serve
      [false, false, false, true, true, true]

def concluded : BackupSession :=
  Store.withVersion 3 { created with
    status := some { phase := .succeeded, hosts := [{ host := "db-0", phase := .succeeded }] } }

theorem starts_iff_unfinished_alone :
    ¬ Starts ⟨{}, .conflict⟩ (Host.derive .statefulSet "db" "db-1" "node") "db" concluded
      alone.state.store := by
  intro starts
  -- The first host was alone when it came to its end, and the session ended with it.
  refine (starts_iff_unfinished (Store.isNumbered_empty.accept created) (by rfl)
    (fun _ none => by cases none) (System.play_reaches Ledger.records_serve _ _) (by rfl) rfl rfl
    (by rfl)).mp starts ?_
  exact ⟨by decide, by decide, by decide⟩

end

end Backup

end ClusterBackup
