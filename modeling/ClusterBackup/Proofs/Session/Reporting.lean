import ClusterBackup.Proofs.Session.Answer
import ClusterBackup.Proofs.Status.Attempts

/-! What the last report of a host leaves in a session that others write to.

The others may report for any host, and may delete the session. They do not make it again, and
no report takes the place of an entry that has come to its end. -/

set_option autoImplicit false

namespace ClusterBackup

open Program Simulation

theorem Hosts.find?_put_other {entry : HostEntry} {host : String} (other : entry.host ≠ host)
    (entries : List HostEntry) : find? (put entry entries) host = find? entries host := by
  induction entries with
  | nil => simp [put, find?, other]
  | cons first rest ih =>
    by_cases same : first.host = entry.host
    · have away : first.host ≠ host := fun equal => other (same.symm.trans equal)
      simp [put, find?, same, other]
    · rw [put, if_neg same]
      by_cases here : first.host = host
      · simp [find?, here]
      · simpa [find?, here] using ih

namespace SessionKind

variable (kind : SessionKind) (nameSpace name : String)

/-- The session has the entry, if there is a session. -/
def Entered (entry : HostEntry) (s : Store) : Prop :=
  ∀ session, s.find? kind.resource nameSpace name = some session →
    Hosts.find? (kind.hosts session) entry.host = some entry

/-- What others may do: a session that is there was there before, and still has the entry of the
host if that has come to its end. -/
def Keeps (host : String) (s t : Store) : Prop :=
  ∀ new, t.find? kind.resource nameSpace name = some new →
    ∃ old, s.find? kind.resource nameSpace name = some old ∧
      ∀ entry, entry.phase.isTerminal = true → Hosts.find? (kind.hosts old) host = some entry →
        Hosts.find? (kind.hosts new) host = some entry

/-- The store replies to the program of a host. -/
def sharing (host : String) : Terms Request Store where
  world := Store.Answers
  rely := Keeps kind nameSpace name host
  guarantee _ _ _ := True
  rely_refl s := fun session found => ⟨session, found, fun _ _ here => here⟩
  rely_trans first second := by
    intro new found
    obtain ⟨middle, earlier, later⟩ := second new found
    obtain ⟨old, first, kept⟩ := first middle earlier
    exact ⟨old, first, fun entry terminal here =>
      later entry terminal (kept entry terminal here)⟩

variable {kind nameSpace name} {entry : HostEntry} {s t : Store}

theorem Entered.stable {host : String} (named : entry.host = host)
    (terminal : entry.phase.isTerminal = true) :
    (sharing kind nameSpace name host).Stable (Entered kind nameSpace name entry) := by
  intro s t keeps entered new found
  obtain ⟨old, earlier, kept⟩ := keeps new found
  have before := entered old earlier
  rw [named] at before ⊢
  exact kept entry terminal before

theorem hosts_of_accept {object session : Resource kind.resource} {total : Option Int}
    (key : object.nameSpace = nameSpace ∧ object.name = name)
    (stored : (s.accept kind.resource (kind.report entry total object).1).2.find? kind.resource
      nameSpace name = some session) :
    kind.hosts session = kind.hosts (kind.report entry total object).1 := by
  have regular := kind.regular ⟨.conflict, entry, total⟩
  have inSpace : (kind.report entry total object).1.nameSpace = nameSpace :=
    (regular.nameSpace object).trans key.1
  have named : (kind.report entry total object).1.name = name :=
    (regular.name object).trans key.2
  have written := Store.find?_accept_self s (kind.report entry total object).1
  rw [inSpace, named, stored] at written
  obtain rfl := Option.some.inj written
  exact hosts_stamped _ _

theorem keeps_report {old : Resource kind.resource} {host : String} (entry : HostEntry)
    (total : Option Int) (found : s.find? kind.resource nameSpace name = some old) :
    Keeps kind nameSpace name host s
      (s.accept kind.resource (kind.report entry total old).1).2 := by
  intro new stored
  refine ⟨old, found, fun ended terminal here => ?_⟩
  rw [hosts_of_accept (Store.find?_key found) stored, hosts_report]
  cases accepted : Hosts.report? (kind.hosts old) entry with
  | none => exact here
  | some entries =>
    obtain ⟨rfl, going⟩ := Hosts.report?_eq_some accepted
    -- The entry of this host has come to its end, so it is another host that has reported.
    have other : entry.host ≠ host := by
      intro same
      rw [going ended (by rw [same]; exact here)] at terminal
      cases terminal
    exact (Hosts.find?_put_other other _).trans here

def Ended (kind : SessionKind) (nameSpace name host : String) (s : Store) : Prop :=
  ∃ entry, entry.host = host ∧ entry.phase.isTerminal = true ∧ Entered kind nameSpace name entry s

theorem Ended.stable (host : String) :
    (sharing kind nameSpace name host).Stable (Ended kind nameSpace name host) := by
  rintro s t keeps ⟨entry, named, terminal, entered⟩
  exact ⟨entry, named, terminal, Entered.stable named terminal s t keeps entered⟩

/-- What is stored when the report of an end has come to a result. -/
def Reflected (kind : SessionKind) (nameSpace name : String) (entry : HostEntry) :
    Except Failure (Option (Resource kind.resource)) × Bool → Store → Prop
  | (.ok (some _), true), s => Entered kind nameSpace name entry s
  | (.ok _, _), s => Ended kind nameSpace name entry.host s
  | (.error _, _), _ => True

theorem Reflected.stable (terminal : entry.phase.isTerminal = true)
    (r : Except Failure (Option (Resource kind.resource)) × Bool) :
    (sharing kind nameSpace name entry.host).Stable (Reflected kind nameSpace name entry r) := by
  intro s t keeps reflected
  unfold Reflected at reflected ⊢
  split at reflected
  · exact Entered.stable rfl terminal s t keeps reflected
  · exact Ended.stable _ s t keeps reflected
  · trivial

theorem ended_of_report {old : Resource kind.resource} {total : Option Int}
    (refused : (kind.report entry total old).2 = false) :
    ∃ ended, ended.host = entry.host ∧ ended.phase.isTerminal = true ∧
      Hosts.find? (kind.hosts old) entry.host = some ended := by
  have reported (s : SessionStatus) (refused : (s.report entry total).2 = false) :
      ∃ ended : HostEntry, ended.host = entry.host ∧ ended.phase.isTerminal = true ∧
        Hosts.find? s.hosts entry.host = some ended := by
    unfold SessionStatus.report at refused
    cases outcome : Hosts.report? s.hosts entry with
    | some entries => simp [outcome] at refused
    | none =>
      unfold Hosts.report? at outcome
      split at outcome
      · rename_i ended found
        split at outcome
        · rename_i terminal
          exact ⟨ended, by simpa using List.find?_some found, terminal, found⟩
        · cases outcome
      · cases outcome
  cases kind <;> exact reported _ refused

/-- Whatever the others do, the report of an end that does not fail finds or leaves the host at
its end, and one that is accepted leaves its entry. -/
theorem ensures_report {r : HostReport} (terminal : r.entry.phase.isTerminal = true) :
    Ensures (sharing kind nameSpace name r.entry.host) ((kind.update r).code nameSpace name)
      (Reflected kind nameSpace name r.entry) s := by
  -- A host that is at its end when the session is read stays there, whoever reports in between.
  let holding (_ : Bool) (object : Resource kind.resource) (t : Store) : Prop :=
    (object.nameSpace = nameSpace ∧ object.name = name) ∧
      ∀ e : HostEntry, e.host = r.entry.host → e.phase.isTerminal = true →
        Hosts.find? (kind.hosts object) e.host = some e → Entered kind nameSpace name e t
  refine ensures_readChangeWrite (fun _ _ => True) holding (fun _ _ _ _ _ => trivial)
    (Reflected.stable terminal) ?reads ?unchanged ?writes (fun _ _ _ _ => trivial)
    (fun _ _ _ _ _ _ _ => ⟨trivial, trivial⟩) trivial
  case reads =>
    intro _ t _
    refine Ensures.ask fun u _ reply v answers => ⟨trivial, fun w later => ?_⟩
    rcases answers with ⟨same, rfl⟩ | ⟨_, failure, same⟩
    · obtain rfl : reply = _ := same
      cases found : v.find? kind.resource nameSpace name with
      | none =>
        have absent : Entered kind nameSpace name r.entry v := fun session here =>
          absurd (found.symm.trans here) nofun
        exact Ended.stable _ v w later ⟨r.entry, rfl, terminal, absent⟩
      | some object =>
        refine ⟨Store.find?_key found, fun e named ended here => ?_⟩
        refine Entered.stable named ended v w later fun session stored => ?_
        obtain rfl := Option.some.inj (found.symm.trans stored)
        exact here
    · obtain rfl : reply = _ := same
      trivial
  case unchanged =>
    rintro _ object t ⟨_, kept⟩ refused
    obtain ⟨e, named, ended, found⟩ := ended_of_report refused
    exact ⟨e, named, ended, kept e named ended (by rw [named]; exact found)⟩
  case writes =>
    rintro _ object t ⟨key, _⟩ accepted
    refine Ensures.ask fun u _ reply v answers => ⟨trivial, fun w later => ?_⟩
    rcases Update.replies_write answers with ⟨failure, rfl, _⟩ | ⟨_, _, _, rfl, rfl⟩
    · trivial
    · refine Entered.stable rfl terminal _ w later fun session stored => ?_
      have accepts : Hosts.find? (kind.hosts (kind.report r.entry r.total object).1) r.entry.host =
          some r.entry := find?_report (Prod.ext rfl accepted)
      rwa [← hosts_of_accept key stored] at accepts

end SessionKind

end ClusterBackup
