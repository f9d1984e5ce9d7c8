import ClusterBackup.Proofs.Session.Entries
import Mathlib.Data.List.Perm.Subperm

/-! When a session ends whose hosts are counted beforehand.

Every host says for how many hosts the session waits, and there are no more hosts than that. Then
the session ends when each of them has come to its end, and nothing is reported after that: there
is no other host, and an entry at its end is never replaced. -/

set_option autoImplicit false

universe v

namespace ClusterBackup

open Program Simulation

namespace Hosts

theorem phase_of_ended {entries : List HostEntry} {expected : Option Nat}
    (ended : (phase entries expected).isTerminal = true) :
    phase entries expected =
      if entries.any (·.phase == .failed) then .failed else .succeeded := by
  unfold phase at ended ⊢
  split
  · rename_i empty
    rw [if_pos empty] at ended
    cases ended
  rename_i some
  rw [if_neg some] at ended
  split
  · rename_i lost
    rw [if_pos lost] at ended
    cases ended
  rename_i seen
  rw [if_neg seen] at ended
  split
  · rfl
  · rename_i going
    rw [if_neg going] at ended
    cases ended

theorem phase_eq_succeeded_iff (entries : List HostEntry) (expected : Option Nat) :
    phase entries expected = .succeeded ↔ (phase entries expected).isTerminal = true ∧
      ∀ e ∈ entries, e.phase = .succeeded := by
  constructor
  · intro succeeded
    have ended : (phase entries expected).isTerminal = true := by rw [succeeded]; rfl
    refine ⟨ended, fun e member => ?_⟩
    have terminal := ((isTerminal_phase_iff entries expected).mp ended).2.1 e member
    rw [phase_of_ended ended] at succeeded
    -- A host that has failed would be the phase of the session.
    have intact : e.phase ≠ .failed := by
      intro failed
      have some : entries.any (·.phase == .failed) = true :=
        List.any_eq_true.mpr ⟨e, member, beq_iff_eq.mpr failed⟩
      rw [if_pos some] at succeeded
      cases succeeded
    cases phase : e.phase with
    | succeeded => rfl
    | failed => exact absurd phase intact
    | pending | running | unknown =>
      rw [phase] at terminal
      cases terminal
  · rintro ⟨ended, all⟩
    rw [phase_of_ended ended, if_neg]
    intro failed
    obtain ⟨e, member, same⟩ := List.any_eq_true.mp failed
    rw [all e member] at same
    cases same

theorem host_mem_put {entry e : HostEntry} {entries : List HostEntry}
    (member : e ∈ put entry entries) :
    e.host = entry.host ∨ e.host ∈ entries.map (·.host) := by
  have host := List.mem_map_of_mem (f := HostEntry.host) member
  rw [map_host_put] at host
  split at host
  · exact .inr host
  · rcases List.mem_append.mp host with old | new
    · exact .inr old
    · exact .inl (List.mem_singleton.mp new)

theorem Extends.eq_of_ended {old new : List HostEntry} (extends' : Extends old new)
    (ended : ∀ e ∈ old, e.phase.isTerminal = true) (full : new.length ≤ old.length) :
    new = old := by
  refine List.ext_getElem? fun i => ?_
  cases here : old[i]? with
  | none => exact List.getElem?_eq_none (Nat.le_trans full (List.getElem?_eq_none_iff.mp here))
  | some e =>
    obtain ⟨e', there, _, same⟩ := extends' i e here
    rw [there, same (ended e (List.mem_of_getElem? here))]

end Hosts

namespace SessionKind

variable {kind : SessionKind} {session : Resource kind.resource}

/-- The phase of the session; nobody has reported without a status. -/
def phase (kind : SessionKind) (session : Resource kind.resource) : Phase :=
  ((kind.status? session).getD {}).phase

/-- The session waits for as many hosts, and none but these have reported. -/
structure Counted (kind : SessionKind) (n : Nat) (names : List String)
    (session : Resource kind.resource) : Prop where
  distinct : ((kind.hosts session).map (·.host)).Nodup
  named : ∀ e ∈ kind.hosts session, e.host ∈ names
  phase : kind.phase session = Hosts.phase (kind.hosts session) (some n)

namespace Counted

variable {n : Nat} {names : List String}

theorem of_fresh (fresh : kind.status? session = none) : kind.Counted n names session := by
  have none : kind.hosts session = [] := by rw [hosts, fresh]; rfl
  refine ⟨?_, ?_, ?_⟩
  · rw [none]
    exact List.nodup_nil
  · rw [none]
    exact fun e member => absurd member List.not_mem_nil
  · rw [none, SessionKind.phase, fresh]
    rfl

theorem stamped (counted : kind.Counted n names session) (version : Option String) :
    kind.Counted n names (session.stamped version) := by
  cases kind <;> exact ⟨counted.distinct, counted.named, counted.phase⟩

theorem report (counted : kind.Counted n names session) {entry : HostEntry}
    (named : entry.host ∈ names) : kind.Counted n names (kind.report entry (some n) session).1 := by
  have phased (s : SessionStatus) : (s.report entry (some (n : Int))).1.phase =
      Hosts.phase (s.report entry (some (n : Int))).1.hosts (some n) := by
    have expected (hosts : List HostEntry) (phase : Phase) :
        SessionStatus.expected { phase, totalHosts := some (n : Int), hosts } = some n := by
      simp [SessionStatus.expected]
    simp only [SessionStatus.report, expected, HOrElse.hOrElse, OrElse.orElse, Option.orElse]
    split <;> rfl
  refine ⟨distinct_report entry (some n) counted.distinct, fun e member => ?_, ?_⟩
  · rw [hosts_report] at member
    cases accepted : Hosts.report? (kind.hosts session) entry with
    | none =>
      rw [accepted] at member
      exact counted.named e member
    | some new =>
      obtain ⟨rfl, _⟩ := Hosts.report?_eq_some accepted
      rw [accepted] at member
      rcases Hosts.host_mem_put member with same | old
      · rwa [same]
      · obtain ⟨e', present, same⟩ := List.mem_map.mp old
        exact same ▸ counted.named e' present
  · cases kind <;> exact phased _

theorem length_le (counted : kind.Counted n names session) :
    (kind.hosts session).length ≤ names.length := by
  have within : (kind.hosts session).map (·.host) ⊆ names := by
    intro host member
    obtain ⟨e, present, rfl⟩ := List.mem_map.mp member
    exact counted.named e present
  simpa using (List.subperm_of_subset counted.distinct within).length_le

theorem length_eq (counted : kind.Counted n names session) (few : names.length ≤ n)
    {p : HostEntry → Bool} (all : (kind.hosts session).countP p = n) :
    (kind.hosts session).length = n := by
  have most := List.countP_le_length (p := p) (l := kind.hosts session)
  have bound := counted.length_le
  omega

theorem isTerminal_iff (counted : kind.Counted n names session) (positive : 0 < n)
    (few : names.length ≤ n) : (kind.phase session).isTerminal = true ↔
      (kind.hosts session).countP (·.phase.isTerminal) = n := by
  rw [counted.phase, Hosts.isTerminal_phase_iff]
  constructor
  · rintro ⟨_, ended, enough⟩
    rw [List.countP_eq_length.mpr ended]
    exact Nat.le_antisymm (Nat.le_trans counted.length_le few) (enough n rfl)
  · intro all
    have full := counted.length_eq few all
    refine ⟨List.ne_nil_of_length_pos (full ▸ positive), ?_, fun m same => ?_⟩
    · exact List.countP_eq_length.mp (all.trans full.symm)
    · cases same
      exact Nat.le_of_eq full.symm

theorem phase_eq_succeeded_iff (counted : kind.Counted n names session) (positive : 0 < n)
    (few : names.length ≤ n) : kind.phase session = .succeeded ↔
      (kind.hosts session).countP (·.phase == .succeeded) = n := by
  rw [counted.phase, Hosts.phase_eq_succeeded_iff, ← counted.phase,
    counted.isTerminal_iff positive few]
  constructor
  · rintro ⟨all, succeeded⟩
    rw [List.countP_eq_length.mpr fun e member => beq_iff_eq.mpr (succeeded e member)]
    exact counted.length_eq few all
  · intro all
    have full := counted.length_eq few all
    have succeeded (e : HostEntry) (member : e ∈ kind.hosts session) : e.phase = .succeeded :=
      beq_iff_eq.mp (List.countP_eq_length.mp (all.trans full.symm) e member)
    refine ⟨?_, succeeded⟩
    rw [List.countP_eq_length.mpr fun e member => by rw [succeeded e member]; rfl]
    exact full

end Counted

section

variable {κ : Type v} {reports : κ → HostReport} {n : Nat} {names : List String}

theorem counted_fold (total : ∀ c, (reports c).total = some (n : Int))
    (named : ∀ c, (reports c).entry.host ∈ names) (writers : List κ)
    (counted : kind.Counted n names session) :
    kind.Counted n names (Updates.fold (fun c => kind.update (reports c)) session writers) := by
  induction writers generalizing session with
  | nil => exact counted
  | cons c rest ih =>
    have next := counted.report (named c)
    rw [← total c] at next
    exact ih next

variable [DecidableEq κ] {nameSpace name : String} {store : Store}
  {initial : Resource kind.resource}
  {y z : System Request (Ledger κ) fun _ : κ => Except Failure Bool}

theorem counted_of_reaches (numbered : store.IsNumbered)
    (found : store.find? kind.resource nameSpace name = some initial)
    (initially : kind.Counted n names initial) (total : ∀ c, (reports c).total = some (n : Int))
    (named : ∀ c, (reports c).entry.host ∈ names)
    (reaches : System.Reaches Ledger.Records (kind.begin reports nameSpace name store) y)
    (stored : y.state.store.find? kind.resource nameSpace name = some session) :
    kind.Counted n names session := by
  have updating : System.Reaches Ledger.Records (Updates.begin (fun c => kind.update (reports c))
      nameSpace name (fun _ x => x.1.map fun _ => x.2) store) y := reaches
  obtain ⟨serial, _⟩ := Updates.serial_of_reaches (fun c => kind.regular (reports c)) numbered found
    updating
  obtain ⟨object, _, here, _, _, content⟩ := serial.stored
  obtain rfl := Option.some.inj (stored.symm.trans here)
  rw [content]
  exact (counted_fold total named y.state.accepted initially).stamped _

/-- Whatever the hosts report in whatever order, a session that waits for a number of hosts and
has no more of them has ended in a version exactly if all of them have come to their end in that
version, and with success exactly if they all have. From then on its phase stays. It may be any
session that such hosts have reported on, or nobody as yet. -/
theorem ends_with_all_hosts (numbered : store.IsNumbered)
    (found : store.find? kind.resource nameSpace name = some initial)
    (initially : kind.Counted n names initial) (positive : 0 < n)
    (total : ∀ c, (reports c).total = some (n : Int)) (few : names.length ≤ n)
    (named : ∀ c, (reports c).entry.host ∈ names)
    (reaches : System.Reaches Ledger.Records (kind.begin reports nameSpace name store) y)
    (later : System.Reaches Ledger.Records y z) :
    ∃ session session', y.state.store.find? kind.resource nameSpace name = some session ∧
      z.state.store.find? kind.resource nameSpace name = some session' ∧
      ((kind.hosts session).map (·.host)).Nodup ∧
      ((kind.phase session).isTerminal = true ↔
        (kind.hosts session).countP (·.phase.isTerminal) = n) ∧
      (kind.phase session = .succeeded ↔
        (kind.hosts session).countP (·.phase == .succeeded) = n) ∧
      ((kind.phase session).isTerminal = true → kind.phase session' = kind.phase session) := by
  have whole := reaches.trans later
  obtain ⟨session, stored, hosts⟩ := stored_of_reaches numbered found reaches
  obtain ⟨session', stored', hosts'⟩ := stored_of_reaches numbered found whole
  have counted := counted_of_reaches numbered found initially total named reaches stored
  have counted' := counted_of_reaches numbered found initially total named whole stored'
  refine ⟨session, session', stored, stored', counted.distinct,
    counted.isTerminal_iff positive few, counted.phase_eq_succeeded_iff positive few,
    fun ended => ?_⟩
  have all := (Hosts.isTerminal_phase_iff _ _).mp (counted.phase ▸ ended)
  have extends' : Hosts.Extends (kind.hosts session) (kind.hosts session') := by
    obtain ⟨more, same⟩ := Ledger.accepted_prefix later
    rw [hosts, hosts', ← same, Updates.fold_append]
    exact extends_fold more _
  -- There is no room for another host, so nothing is reported any more.
  have full : (kind.hosts session').length ≤ (kind.hosts session).length :=
    Nat.le_trans (Nat.le_trans counted'.length_le few) (all.2.2 n rfl)
  rw [counted.phase, counted'.phase, extends'.eq_of_ended all.2.1 full]

end

section

/-- One host is lost and seen again. The other one succeeds, and is then said to have failed. -/
inductive Sighting where
  | lost
  | seen
  | done
  | denied
  deriving DecidableEq

def Sighting.entry : Sighting → HostEntry
  | .lost => { host := "db-0", phase := .unknown }
  | .seen => { host := "db-0", phase := .succeeded, duration := some "2s" }
  | .done => { host := "db-1", phase := .succeeded, duration := some "3s" }
  | .denied => { host := "db-1", phase := .failed, error := some "out of space" }

def pair : BackupSession :=
  { metadata := Cluster.Metadata.named "apps" "pair", spec := ⟨"db"⟩ }

/-- Each of the reports is made while nothing else happens. -/
def sightings (order : List Sighting) :
    System Request (Ledger Sighting) (fun _ : Sighting => Except Failure Bool) :=
  (SessionKind.backup.begin (fun s => ⟨.conflict, s.entry, some 2⟩) "apps" "pair"
    (Store.accept {} .backupSession pair).2).play Ledger.serve (order.flatMap (List.replicate 3))

theorem ends_with_all_hosts_seen : ∃ session session',
    (sightings [.lost, .done, .seen]).state.store.find? .backupSession "apps" "pair" =
        some session ∧
      ((sightings [.lost, .done, .seen]).play Ledger.serve
        [.denied, .denied, .denied]).state.store.find? .backupSession "apps" "pair" =
          some session' ∧
      SessionKind.backup.phase session = .succeeded ∧
      SessionKind.backup.phase session' = .succeeded := by
  have reaches : System.Reaches Ledger.Records _ (sightings [.lost, .done, .seen]) :=
    System.play_reaches Ledger.records_serve _ _
  have later := System.play_reaches Ledger.records_serve [.denied, .denied, .denied]
    (sightings [.lost, .done, .seen])
  have few : ["db-0", "db-1"].length ≤ 2 := by decide
  obtain ⟨session, session', stored, stored', _, _, succeeded, kept⟩ := ends_with_all_hosts
    (Store.isNumbered_empty.accept pair) (by rfl) (.of_fresh (by rfl)) (by decide) (fun _ => rfl)
    few (fun s => by cases s <;> decide) reaches later
  have hosts :
      ((sightings [.lost, .done, .seen]).state.store.find? .backupSession "apps" "pair").map
        SessionKind.backup.hosts = some [Sighting.seen.entry, Sighting.done.entry] := by rfl
  rw [show (sightings [.lost, .done, .seen]).state.store.find? .backupSession "apps" "pair" =
    some session from stored] at hosts
  have phase : SessionKind.backup.phase session = .succeeded := by
    rw [succeeded, Option.some.inj hosts]
    rfl
  have ended : (SessionKind.backup.phase session).isTerminal = true := by rw [phase]; rfl
  exact ⟨session, session', stored, stored', phase, (kept ended).trans phase⟩

end

end SessionKind

end ClusterBackup
