import ClusterBackup.Proofs.Backup.Recorded
import ClusterBackup.Proofs.Session.Reporting
import ClusterBackup.Proofs.Status.Watched

/-! Calls of one host for one backup session that go on at the same time.

They share the session and a log of all their exchanges. Others may write to the session too,
but they leave the entry of the host alone. -/

set_option autoImplicit false

universe v

namespace ClusterBackup.Rivals

open Program Simulation Simulation.Store

section

variable (nameSpace name host : String)

def Begins (e : Exchange Request) : Prop :=
  SessionKind.backup.Reported nameSpace name { host, phase := .running } e

def Ends (e : Exchange Request) : Prop :=
  ∃ entry, entry.host = host ∧ entry.phase.isTerminal = true ∧
    SessionKind.backup.Reported nameSpace name entry e

/-- A configuration is read. This is the first thing that a run does, and nothing else in a
call does it. -/
def Starts (e : Exchange Request) : Prop := e.request.reach = .reading .configuration

def record? (s : Store) : Option (Option HostEntry) :=
  (s.find? .backupSession nameSpace name).map fun session =>
    Hosts.find? (SessionKind.backup.hosts session) host

/-- What goes on besides the calls. -/
def Aside (s t : Store) : Prop :=
  s.Evolves t ∧ record? nameSpace name host t = record? nameSpace name host s

end

variable {κ : Type v}

def own (c : κ) (s : Annals κ) (e : Exchange Request) : Prop := (c, e) ∈ s.log

/-- A call has exchanged something of a kind. -/
def Did (what : Exchange Request → Prop) (c : κ) (log : List (κ × Exchange Request)) : Prop :=
  ∃ e, (c, e) ∈ log ∧ what e

/-- The store replies to a call, after what has gone on besides. -/
def Records (nameSpace name host : String) (c : κ) (s : Annals κ) (e : Exchange Request)
    (t : Annals κ) : Prop :=
  (∃ edited, Aside nameSpace name host s.store edited ∧ edited.Answers e t.store) ∧
    t.log = s.log ++ [(c, e)]

def Over (nameSpace name host : String) (s : Store) : Prop :=
  ∃ entry, record? nameSpace name host s = some (some entry) ∧ entry.phase.isTerminal = true

/-- No call begins after one has ended, and one that has not begun starts no run. -/
structure Sound (nameSpace name host : String) (s : Annals κ) : Prop where
  numbered : s.store.IsNumbered
  present : (record? nameSpace name host s.store).isSome = true
  begun : ∀ c, Did Starts c s.log → Did (Begins nameSpace name host) c s.log
  finished : ∀ p ∈ s.log, Ends nameSpace name host p.2 → Over nameSpace name host s.store
  order : ∀ before p after, s.log = before ++ p :: after → Begins nameSpace name host p.2 →
    ∀ q ∈ before, ¬ Ends nameSpace name host q.2

def Later (nameSpace name host : String) (s t : Annals κ) : Prop :=
  s.store.Evolves t.store ∧ (Sound nameSpace name host s → Sound nameSpace name host t)

theorem Later.refl (nameSpace name host : String) (s : Annals κ) :
    Later nameSpace name host s s :=
  ⟨.refl _, id⟩

variable {nameSpace name host : String} {s t u : Annals κ} {c d : κ} {e : Exchange Request}

theorem Later.trans (first : Later nameSpace name host s t) (second : Later nameSpace name host t u) :
    Later nameSpace name host s u :=
  ⟨first.1.trans second.1, second.2 ∘ first.2⟩

variable (nameSpace name host) in
def terms : κ → Terms Request (Annals κ) :=
  .among (Records nameSpace name host) (Later nameSpace name host) (Later.refl nameSpace name host)
    Later.trans own

theorem Did.append {what : Exchange Request → Prop} {first second : List (κ × Exchange Request)} :
    Did what c (first ++ second) ↔ Did what c first ∨ Did what c second := by
  simp only [Did, List.mem_append, or_and_right, exists_or]

theorem Did.singleton {what : Exchange Request → Prop} :
    Did what d [(c, e)] ↔ d = c ∧ what e := by
  constructor
  · rintro ⟨e', member, here⟩
    cases List.mem_singleton.mp member
    exact ⟨rfl, here⟩
  · rintro ⟨rfl, here⟩
    exact ⟨e, List.mem_singleton_self _, here⟩

theorem Begins.accepted (begins : Begins nameSpace name host e) : isAccepted e = true := by
  obtain ⟨_, _, rfl, _⟩ := begins
  rfl

theorem Begins.writes (begins : Begins nameSpace name host e) :
    e.request.reach = .writing .backupSession := by
  obtain ⟨_, _, rfl, _⟩ := begins
  rfl

theorem Ends.accepted (ends : Ends nameSpace name host e) : isAccepted e = true := by
  obtain ⟨_, _, _, _, _, rfl, _⟩ := ends
  rfl

theorem Ends.writes (ends : Ends nameSpace name host e) :
    e.request.reach = .writing .backupSession := by
  obtain ⟨_, _, _, _, _, rfl, _⟩ := ends
  rfl

theorem Records.own_other (records : Records nameSpace name host c s e t) (other : d ≠ c) :
    own d t = own d s := by
  funext e'
  rw [own, records.2, List.mem_append, List.mem_singleton]
  exact propext (or_iff_left fun same => other (congrArg Prod.fst same))

theorem Records.evolves (records : Records nameSpace name host c s e t) :
    s.store.Evolves t.store := by
  obtain ⟨⟨edited, aside, answers⟩, _⟩ := records
  exact aside.1.trans answers.evolves

theorem Sound.append (sound : Sound nameSpace name host s)
    (records : Records nameSpace name host c s e t)
    (present : (record? nameSpace name host t.store).isSome = true)
    (starts : Starts e → Did (Begins nameSpace name host) c s.log)
    (begins : Begins nameSpace name host e → ∀ q ∈ s.log, ¬ Ends nameSpace name host q.2)
    (finished : Over nameSpace name host s.store ∨ Ends nameSpace name host e →
      Over nameSpace name host t.store) : Sound nameSpace name host t := by
  refine ⟨IsNumbered.evolves sound.numbered records.evolves, present, fun d started => ?begun,
    fun p member ends => ?finished, fun before p after same begun => ?order⟩
  case begun =>
    rw [records.2, Did.append, Did.singleton] at started ⊢
    rcases started with started | ⟨rfl, started⟩
    · exact .inl (sound.begun d started)
    · exact .inl (starts started)
  case finished =>
    rw [records.2, List.mem_append, List.mem_singleton] at member
    rcases member with member | rfl
    · exact finished (.inl (sound.finished p member ends))
    · exact finished (.inr ends)
  case order =>
    -- What begins is the exchange that has just been made, or it has begun in this order before.
    rw [records.2] at same
    rcases List.eq_nil_or_concat after with rfl | ⟨more, last, rfl⟩
    · obtain ⟨rfl, last⟩ := List.append_inj' same rfl
      cases List.singleton_inj.mp last
      exact begins begun
    · rw [List.concat_eq_append, ← List.cons_append, ← List.append_assoc] at same
      obtain ⟨earlier, _⟩ := List.append_inj' same rfl
      exact sound.order before p more earlier begun

theorem Sound.quiet (sound : Sound nameSpace name host s)
    (records : Records nameSpace name host c s e t)
    (quiet : isAccepted e = false ∨ e.request.reach ≠ .writing .backupSession)
    (same : record? nameSpace name host t.store = record? nameSpace name host s.store)
    (starts : Starts e → Did (Begins nameSpace name host) c s.log) :
    Sound nameSpace name host t := by
  refine sound.append records (by rw [same]; exact sound.present) starts (fun begins => ?_) ?_
  · rcases quiet with refused | other
    · cases begins.accepted.symm.trans refused
    · exact absurd begins.writes other
  · rintro (finished | ends)
    · rw [Over, same]
      exact finished
    · rcases quiet with refused | other
      · cases ends.accepted.symm.trans refused
      · exact absurd ends.writes other

theorem Records.record?_eq (records : Records nameSpace name host c s e t)
    (other : e.request.reach ≠ .writing .backupSession) :
    record? nameSpace name host t.store = record? nameSpace name host s.store := by
  obtain ⟨⟨edited, aside, answers⟩, _⟩ := records
  rw [← aside.2, record?, answers.find?_eq other]
  rfl

theorem going_of_report {old : BackupSession} {entry e : HostEntry} {total : Option Int}
    (accepted : (SessionKind.backup.report entry total old).2 = true)
    (found : Hosts.find? (SessionKind.backup.hosts old) entry.host = some e) :
    e.phase.isTerminal = false := by
  have reported (s : SessionStatus) (accepted : (s.report entry total).2 = true)
      (found : Hosts.find? s.hosts entry.host = some e) : e.phase.isTerminal = false := by
    unfold SessionStatus.report at accepted
    cases outcome : Hosts.report? s.hosts entry with
    | none => simp [outcome] at accepted
    | some entries => exact (Hosts.report?_eq_some outcome).2 e found
  exact reported _ accepted found

theorem record?_of_found {store : Store} {session : BackupSession}
    (found : store.find? .backupSession nameSpace name = some session) :
    record? nameSpace name host store =
      some (Hosts.find? (SessionKind.backup.hosts session) host) :=
  congrArg (Option.map _) found

/-- What a call has read of the session, with its version. -/
def Known (nameSpace name : String) (object : BackupSession) (s : Annals κ) : Prop :=
  Watched.Seen nameSpace name object (⟨s.store, []⟩ : Watched .backupSession)

theorem Known.later {object : BackupSession} (known : Known nameSpace name object s)
    (evolves : s.store.Evolves t.store) : Known nameSpace name object t :=
  Watched.Seen.stable object ⟨s.store, []⟩ ⟨t.store, []⟩ ⟨evolves, rfl⟩ known

theorem Sound.write {r : HostReport} {object : BackupSession}
    {reply : Except Failure BackupSession} (sound : Sound nameSpace name host s)
    (named : r.entry.host = host) (known : Known nameSpace name object s)
    (key : object.nameSpace = nameSpace ∧ object.name = name)
    (accepts : (SessionKind.backup.report r.entry r.total object).2 = true)
    (records : Records nameSpace name host c s
      ⟨.replaceStatus .backupSession (SessionKind.backup.report r.entry r.total object).1, reply⟩ t) :
    Sound nameSpace name host t ∧ ((∃ failure, reply = .error failure) ∨
      ∃ written, reply = .ok written ∧ SessionKind.backup.Reported nameSpace name r.entry
        ⟨.replaceStatus .backupSession (SessionKind.backup.report r.entry r.total object).1,
          reply⟩) := by
  obtain ⟨inSpace, called⟩ := key
  have regular := SessionKind.backup.regular r
  have ⟨⟨edited, aside, answers⟩, _⟩ := records
  rcases Update.replies_write (u := SessionKind.backup.update r) answers with
    ⟨failure, rfl, store⟩ | ⟨old, found, version, rfl, store⟩
  · refine ⟨sound.quiet records (.inl rfl) ?_ nofun, .inl ⟨failure, rfl⟩⟩
    rw [store]
    exact aside.2
  · have space : (SessionKind.backup.report r.entry r.total object).1.nameSpace = nameSpace :=
      (regular.nameSpace object).trans inSpace
    have title : (SessionKind.backup.report r.entry r.total object).1.name = name :=
      (regular.name object).trans called
    have entered : Hosts.find? (SessionKind.backup.hosts
        (SessionKind.backup.report r.entry r.total object).1) r.entry.host = some r.entry :=
      SessionKind.find?_report (Prod.ext rfl accepts)
    -- The version is that of the store, so what is changed is what was read.
    rw [space, title] at found
    obtain ⟨n, numbered, _, current⟩ := known.later (t := ⟨edited, s.log⟩) aside.1
    obtain rfl : old = object := current old found
      ((version.trans (regular.version object)).trans numbered)
    have stored : record? nameSpace name host t.store = some (some r.entry) := by
      have here := find?_accept_self edited (SessionKind.backup.report r.entry r.total old).1
      rw [space, title] at here
      rw [store, record?_of_found here, ← named, ← entered]
      exact congrArg (fun hosts => some (Hosts.find? hosts r.entry.host))
        (@SessionKind.hosts_stamped .backup _ _)
    have going : ¬ Over nameSpace name host s.store := by
      rintro ⟨entry, here, terminal⟩
      rw [← aside.2, record?_of_found found, ← named] at here
      rw [going_of_report accepts (Option.some.inj here)] at terminal
      cases terminal
    refine ⟨sound.append records (by rw [stored]; rfl) nofun
      (fun _ q member ends => going (sound.finished q member ends)) ?_, .inr ⟨_, rfl, _, _, rfl, space,
        title, entered⟩⟩
    rintro (finished | ⟨entry, same, terminal, _, _, written, _, _, reported⟩)
    · exact absurd finished going
    · cases written
      rw [same, ← named, entered] at reported
      cases reported
      exact ⟨_, stored, terminal⟩

end ClusterBackup.Rivals
