import ClusterBackup.Proofs.Session.Admission

/-! The entries of the hosts in a session, in all its versions.

A report puts an entry in the place of the older one of its host, or at the end. An entry at
its end is never replaced, so that later versions of a session extend the earlier ones. -/

set_option autoImplicit false

universe v

namespace ClusterBackup

open Program Simulation

namespace Hosts

/-- Every entry keeps its place and its host, and one that has come to its end stays the same. -/
def Extends (old new : List HostEntry) : Prop :=
  ∀ (i : Nat) e, old[i]? = some e →
    ∃ e', new[i]? = some e' ∧ e'.host = e.host ∧ (e.phase.isTerminal = true → e' = e)

theorem Extends.refl (entries : List HostEntry) : Extends entries entries :=
  fun _ e here => ⟨e, here, rfl, fun _ => rfl⟩

theorem Extends.trans {first second third : List HostEntry} (left : Extends first second)
    (right : Extends second third) : Extends first third := by
  intro i e here
  obtain ⟨e', here', host', same'⟩ := left i e here
  obtain ⟨e'', here'', host'', same''⟩ := right i e' here'
  refine ⟨e'', here'', host''.trans host', fun terminal => ?_⟩
  have unchanged : e' = e := same' terminal
  subst unchanged
  exact same'' terminal

theorem extends_put (entry : HostEntry) {entries : List HostEntry}
    (going : ∀ e, find? entries entry.host = some e → e.phase.isTerminal = false) :
    Extends entries (put entry entries) := by
  -- The first entry of the host is replaced, and it is the one that `find?` gives.
  induction entries with
  | nil => exact fun i e here => by simp at here
  | cons first rest ih =>
    intro i e here
    by_cases same : first.host = entry.host
    · have running : first.phase.isTerminal = false := going first (by simp [find?, same])
      rw [put, if_pos same]
      cases i with
      | zero =>
        obtain rfl : first = e := by simpa using here
        refine ⟨entry, rfl, same.symm, fun terminal => ?_⟩
        rw [running] at terminal
        cases terminal
      | succ i => exact ⟨e, by simpa using here, rfl, fun _ => rfl⟩
    · rw [put, if_neg same]
      cases i with
      | zero => exact ⟨e, by simpa using here, rfl, fun _ => rfl⟩
      | succ i =>
        have later : Extends rest (put entry rest) :=
          ih fun e found => going e (by simpa [find?, same] using found)
        simpa using later i e (by simpa using here)

theorem map_host_put (entry : HostEntry) (entries : List HostEntry) :
    (put entry entries).map (·.host) =
      if entry.host ∈ entries.map (·.host) then entries.map (·.host)
      else entries.map (·.host) ++ [entry.host] := by
  induction entries with
  | nil => simp [put]
  | cons first rest ih =>
    by_cases same : first.host = entry.host
    · simp [put, same]
    · rw [put, if_neg same, List.map_cons, ih]
      by_cases present : entry.host ∈ rest.map (·.host)
      · rw [if_pos present, if_pos (by simpa using .inr (by simpa using present)), List.map_cons]
      · have absent : entry.host ∉ (first :: rest).map (·.host) := by
          simpa [Ne.symm same] using present
        rw [if_neg present, if_neg absent, List.map_cons, List.cons_append]

theorem nodup_put (entry : HostEntry) {entries : List HostEntry}
    (distinct : (entries.map (·.host)).Nodup) : ((put entry entries).map (·.host)).Nodup := by
  rw [map_host_put]
  split
  · exact distinct
  · rename_i absent
    exact List.nodup_append.mpr ⟨distinct, by simp, fun host member other last =>
      fun same => absent (by rw [← List.mem_singleton.mp last, ← same]; exact member)⟩

theorem report?_eq_some {entries new : List HostEntry} {entry : HostEntry}
    (accepted : report? entries entry = some new) :
    new = put entry entries ∧
      ∀ e, find? entries entry.host = some e → e.phase.isTerminal = false := by
  unfold report? at accepted
  split at accepted
  · rename_i old found
    split at accepted
    · cases accepted
    · rename_i going
      cases accepted
      refine ⟨rfl, fun e here => ?_⟩
      obtain rfl := Option.some.inj (found.symm.trans here)
      exact Bool.eq_false_iff.mpr going
  · rename_i absent
    cases accepted
    exact ⟨rfl, fun e here => absurd (absent.symm.trans here) nofun⟩

end Hosts

namespace SessionKind

variable {kind : SessionKind} {session : Resource kind.resource}

/-- The entries of a session are of different hosts, and its phase follows from them. -/
structure Ordered (kind : SessionKind) (session : Resource kind.resource) : Prop where
  distinct : ((kind.hosts session).map (·.host)).Nodup
  coherent : kind.Coherent session

theorem hosts_stamped (session : Resource kind.resource) (version : Option String) :
    kind.hosts (session.stamped version) = kind.hosts session := by
  cases kind <;> rfl

theorem hosts_report (entry : HostEntry) (total : Option Int) (session : Resource kind.resource) :
    kind.hosts (kind.report entry total session).1 =
      (Hosts.report? (kind.hosts session) entry).getD (kind.hosts session) := by
  have reported (s : SessionStatus) : (s.report entry total).1.hosts =
      (Hosts.report? s.hosts entry).getD s.hosts := by
    simp only [SessionStatus.report]
    split <;> rename_i outcome <;> rw [outcome] <;> rfl
  cases kind <;> exact reported _

theorem extends_report (entry : HostEntry) (total : Option Int)
    (session : Resource kind.resource) :
    Hosts.Extends (kind.hosts session) (kind.hosts (kind.report entry total session).1) := by
  rw [hosts_report]
  cases accepted : Hosts.report? (kind.hosts session) entry with
  | none => exact .refl _
  | some new =>
    obtain ⟨rfl, going⟩ := Hosts.report?_eq_some accepted
    exact Hosts.extends_put entry going

theorem distinct_report (entry : HostEntry) (total : Option Int)
    (distinct : ((kind.hosts session).map (·.host)).Nodup) :
    ((kind.hosts (kind.report entry total session).1).map (·.host)).Nodup := by
  rw [hosts_report]
  cases accepted : Hosts.report? (kind.hosts session) entry with
  | none => exact distinct
  | some new =>
    obtain ⟨rfl, _⟩ := Hosts.report?_eq_some accepted
    exact Hosts.nodup_put entry distinct

section

variable {κ : Type v} {reports : κ → HostReport}

theorem extends_fold (writers : List κ) (session : Resource kind.resource) :
    Hosts.Extends (kind.hosts session)
      (kind.hosts (Updates.fold (fun c => kind.update (reports c)) session writers)) := by
  induction writers generalizing session with
  | nil => exact .refl _
  | cons c rest ih =>
    exact (extends_report (reports c).entry (reports c).total session).trans
      (ih ((kind.update (reports c)).apply session))

theorem distinct_fold (writers : List κ) {session : Resource kind.resource}
    (distinct : ((kind.hosts session).map (·.host)).Nodup) :
    ((kind.hosts (Updates.fold (fun c => kind.update (reports c)) session writers)).map
      (·.host)).Nodup := by
  induction writers generalizing session with
  | nil => exact distinct
  | cons c rest ih =>
    exact ih (distinct_report (reports c).entry (reports c).total distinct)

variable [DecidableEq κ] {nameSpace name : String} {store : Store}
  {initial : Resource kind.resource}
  {y z : System Request (Ledger κ) fun _ : κ => Except Failure Bool}

/-- In every order of the single reads and writes, what is stored is what the accepted reports
make of the session. -/
theorem stored_of_reaches (numbered : store.IsNumbered)
    (found : store.find? kind.resource nameSpace name = some initial)
    (reaches : System.Reaches Ledger.Records (kind.begin reports nameSpace name store) y) :
    ∃ session, y.state.store.find? kind.resource nameSpace name = some session ∧
      kind.hosts session =
        kind.hosts (Updates.fold (fun c => kind.update (reports c)) initial y.state.accepted) := by
  have updating : System.Reaches Ledger.Records (Updates.begin (fun c => kind.update (reports c))
      nameSpace name (fun _ x => x.1.map fun _ => x.2) store) y := reaches
  obtain ⟨serial, _⟩ := Updates.serial_of_reaches (fun c => kind.regular (reports c)) numbered found
    updating
  obtain ⟨session, _, stored, _, _, content⟩ := serial.stored
  exact ⟨session, stored, by rw [content, hosts_stamped]⟩

/-- Whatever the hosts of a session report in whatever order, every stored version has at most
one entry of each host and the phase that follows from its entries, and every later version
keeps the entries in their places, those that have come to their end as they are. -/
theorem entries_kept (numbered : store.IsNumbered)
    (found : store.find? kind.resource nameSpace name = some initial)
    (fresh : kind.status? initial = none)
    (reaches : System.Reaches Ledger.Records (kind.begin reports nameSpace name store) y)
    (later : System.Reaches Ledger.Records y z) :
    ∃ session session', y.state.store.find? kind.resource nameSpace name = some session ∧
      z.state.store.find? kind.resource nameSpace name = some session' ∧
      kind.Ordered session ∧ kind.Ordered session' ∧
      Hosts.Extends (kind.hosts session) (kind.hosts session') := by
  have none : kind.hosts initial = [] := by rw [hosts, fresh]; rfl
  have coherent : kind.Coherent initial := fun s some => by rw [fresh] at some; cases some
  have whole := reaches.trans later
  obtain ⟨session, stored, hosts⟩ := stored_of_reaches numbered found reaches
  obtain ⟨session', stored', hosts'⟩ := stored_of_reaches numbered found whole
  have distinct (writers : List κ) : ((kind.hosts (Updates.fold (fun c => kind.update (reports c))
      initial writers)).map (·.host)).Nodup :=
    distinct_fold writers (by rw [none]; exact List.nodup_nil)
  refine ⟨session, session', stored, stored', ⟨?_, ?_⟩, ⟨?_, ?_⟩, ?_⟩
  · rw [hosts]
    exact distinct _
  · exact coherent_of_reaches numbered found coherent reaches stored
  · rw [hosts']
    exact distinct _
  · exact coherent_of_reaches numbered found coherent whole stored'
  · -- The later version has the reports of the earlier one, and then some more.
    obtain ⟨more, same⟩ := Ledger.accepted_prefix later
    rw [hosts, hosts', ← same, Updates.fold_append]
    exact extends_fold more _

end

section

def failed : HostEntry := { host := "db-0", phase := .failed, error := some "out of space" }

def succeeded : HostEntry := { host := "db-1", phase := .succeeded, duration := some "3s" }

def again : RestoreSession :=
  { metadata := Cluster.Metadata.named "apps" "again", spec := { repository := "default" } }

/-- Two hosts read the session, and the first one reports its end. -/
def early : System Request (Ledger Bool) (fun _ : Bool => Except Failure Bool) :=
  (SessionKind.restore.begin (fun first => ⟨.conflict, if first then failed else succeeded, some 2⟩)
    "apps" "again" (Store.accept {} .restoreSession again).2).play Ledger.serve
      [true, true, false, false, true]

/-- The second host is in conflict with the first one, and begins again. -/
def late : System Request (Ledger Bool) (fun _ : Bool => Except Failure Bool) :=
  early.play Ledger.serve [false, false, false, false, false]

theorem entries_kept_conflict : ∃ session session',
    early.state.store.find? SessionKind.restore.resource "apps" "again" = some session ∧
      late.state.store.find? SessionKind.restore.resource "apps" "again" = some session' ∧
      SessionKind.restore.hosts session = [failed] ∧
      SessionKind.restore.hosts session' = [failed, succeeded] ∧
      SessionKind.restore.Ordered session ∧ SessionKind.restore.Ordered session' := by
  have reaches : System.Reaches Ledger.Records _ early :=
    System.play_reaches Ledger.records_serve _ _
  have later : System.Reaches Ledger.Records early late :=
    System.play_reaches Ledger.records_serve _ _
  obtain ⟨session, session', stored, stored', ordered, ordered', _⟩ := entries_kept
    (Store.isNumbered_empty.accept again) (by rfl) (by rfl) reaches later
  have before : (early.state.store.find? SessionKind.restore.resource "apps" "again").map
      SessionKind.restore.hosts = some [failed] := by rfl
  have after : (late.state.store.find? SessionKind.restore.resource "apps" "again").map
      SessionKind.restore.hosts = some [failed, succeeded] := by rfl
  rw [stored] at before
  rw [stored'] at after
  exact ⟨session, session', stored, stored', Option.some.inj before, Option.some.inj after,
    ordered, ordered'⟩

end

end SessionKind

end ClusterBackup
