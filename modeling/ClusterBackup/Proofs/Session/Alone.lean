import ClusterBackup.Proofs.Session.Outcome
import ClusterBackup.Proofs.Store.Evolution
import Mathlib.Data.List.Induction

/-! A session on which one program alone reports.

What is stored follows from the reports in their order: there is one entry for each host that was
reported, and it stays what the first report of its end has made of it. -/

set_option autoImplicit false

namespace ClusterBackup

open Program Simulation

namespace Hosts

def hear (entries : List HostEntry) (entry : HostEntry) : List HostEntry :=
  (report? entries entry).getD entries

def heard (reports : List HostEntry) : List HostEntry := reports.foldl hear []

/-- The first report that a host has come to its end. -/
def firstEnd? (reports : List HostEntry) (host : String) : Option HostEntry :=
  reports.find? fun e => e.host == host && e.phase.isTerminal

variable {entries reports : List HostEntry} {e : HostEntry} {host : String}

theorem hear_cases (entries : List HostEntry) (entry : HostEntry) :
    (hear entries entry = put entry entries ∧
        ∀ e, find? entries entry.host = some e → e.phase.isTerminal = false) ∨
      (hear entries entry = entries ∧
        ∃ e, find? entries entry.host = some e ∧ e.phase.isTerminal = true) := by
  unfold hear report?
  cases found : find? entries entry.host with
  | none => exact .inl ⟨rfl, nofun⟩
  | some e =>
    cases ended : e.phase.isTerminal with
    | false => exact .inl ⟨by simp [ended], fun _ same => Option.some.inj same ▸ ended⟩
    | true => exact .inr ⟨by simp [ended], e, rfl, ended⟩

theorem mem_of_mem_put {entry : HostEntry} (member : e ∈ put entry entries) :
    e = entry ∨ e ∈ entries := by
  induction entries with
  | nil => exact .inl (List.mem_singleton.mp member)
  | cons first rest ih =>
    rw [put] at member
    split at member
    · exact (List.mem_cons.mp member).imp_right (List.mem_cons_of_mem first)
    · rcases List.mem_cons.mp member with rfl | later
      · exact .inr List.mem_cons_self
      · exact (ih later).imp_right (List.mem_cons_of_mem first)

theorem host_mem_of_find? (found : find? entries host = some e) : host ∈ entries.map (·.host) :=
  List.mem_map.mpr ⟨e, List.mem_of_find?_eq_some found, by simpa using List.find?_some found⟩

theorem find?_of_mem (distinct : (entries.map (·.host)).Nodup) (member : e ∈ entries) :
    find? entries e.host = some e := by
  induction entries with
  | nil => cases member
  | cons first rest ih =>
    obtain ⟨away, distinct⟩ := List.nodup_cons.mp distinct
    rcases List.mem_cons.mp member with rfl | later
    · simp [find?]
    · have other : first.host ≠ e.host := fun same =>
        away (List.mem_map.mpr ⟨e, later, same.symm⟩)
      simpa [find?, other] using ih distinct later

theorem map_host_hear (entries : List HostEntry) (entry : HostEntry) :
    (hear entries entry).map (·.host) =
      if entry.host ∈ entries.map (·.host) then entries.map (·.host)
      else entries.map (·.host) ++ [entry.host] := by
  obtain ⟨same, _⟩ | ⟨same, e, found, _⟩ := hear_cases entries entry
  · rw [same, map_host_put]
  · rw [same, if_pos (host_mem_of_find? found)]

theorem mem_of_mem_hear {entry : HostEntry} (member : e ∈ hear entries entry) :
    e = entry ∨ e ∈ entries := by
  obtain ⟨same, _⟩ | ⟨same, _⟩ := hear_cases entries entry
  · exact mem_of_mem_put (same ▸ member)
  · exact .inr (same ▸ member)

/-- An end that is recorded stays. -/
theorem find?_hear {entry : HostEntry} (found : find? entries host = some e)
    (ended : e.phase.isTerminal = true) : find? (hear entries entry) host = some e := by
  obtain ⟨same, going⟩ | ⟨same, _⟩ := hear_cases entries entry
  · have other : entry.host ≠ host := by
      rintro rfl
      rw [going e found] at ended
      cases ended
    rw [same, find?_put_other other, found]
  · rw [same, found]

theorem heard_concat (reports : List HostEntry) (entry : HostEntry) :
    heard (reports ++ [entry]) = hear (heard reports) entry := by
  simp [heard]

theorem nodup_heard (reports : List HostEntry) : ((heard reports).map (·.host)).Nodup := by
  induction reports using List.reverseRecOn with
  | nil => exact List.nodup_nil
  | append_singleton reports entry ih =>
    rw [heard_concat]
    obtain ⟨same, _⟩ | ⟨same, _⟩ := hear_cases (heard reports) entry
    · rw [same]
      exact nodup_put entry ih
    · rwa [same]

theorem host_mem_heard (reports : List HostEntry) (host : String) :
    host ∈ (heard reports).map (·.host) ↔ host ∈ reports.map (·.host) := by
  induction reports using List.reverseRecOn with
  | nil => exact Iff.rfl
  | append_singleton reports entry ih =>
    rw [heard_concat, map_host_hear, List.map_append, List.mem_append, ← ih]
    split
    · rename_i present
      exact ⟨.inl, fun either => either.elim id fun last => by
        rwa [List.map_singleton, List.mem_singleton] at last ▸ present⟩
    · exact List.mem_append

theorem mem_of_mem_heard (member : e ∈ heard reports) : e ∈ reports := by
  induction reports using List.reverseRecOn with
  | nil => cases member
  | append_singleton reports entry ih =>
    rw [heard_concat] at member
    rcases mem_of_mem_hear member with rfl | earlier
    · exact List.mem_append_right _ (List.mem_singleton_self e)
    · exact List.mem_append_left _ (ih earlier)

theorem firstEnd?_eq_none_iff : firstEnd? reports host = none ↔
    ∀ e ∈ reports, e.host = host → e.phase.isTerminal = false := by
  simp [firstEnd?]

theorem firstEnd?_eq_some (first : firstEnd? reports host = some e) :
    e ∈ reports ∧ e.host = host ∧ e.phase.isTerminal = true := by
  have found := List.find?_some first
  rw [Bool.and_eq_true, beq_iff_eq] at found
  exact ⟨List.mem_of_find?_eq_some first, found⟩

theorem find?_heard (ended : firstEnd? reports host = some e) :
    find? (heard reports) host = some e := by
  induction reports using List.reverseRecOn with
  | nil => cases ended
  | append_singleton reports entry ih =>
    rw [heard_concat]
    rw [firstEnd?, List.find?_append] at ended
    rcases Option.or_eq_some_iff.mp ended with before | ⟨none, last⟩
    · exact find?_hear (ih before) (firstEnd?_eq_some before).2.2
    · obtain ⟨here, named, _⟩ := firstEnd?_eq_some last
      obtain rfl := List.mem_singleton.mp here
      subst named
      -- Nothing that was reported before is the end of this host, so the report is accepted.
      obtain ⟨same, _⟩ | ⟨_, old, found, closed⟩ := hear_cases (heard reports) e
      · rw [same, find?_put]
      · have going := firstEnd?_eq_none_iff.mp none old
          (mem_of_mem_heard (List.mem_of_find?_eq_some found)) (by simpa using List.find?_some found)
        rw [going] at closed
        cases closed

theorem firstEnd?_of_mem_heard (member : e ∈ heard reports)
    (ended : ∃ r ∈ reports, r.host = e.host ∧ r.phase.isTerminal = true) :
    firstEnd? reports e.host = some e := by
  obtain ⟨r, reported, same, terminal⟩ := ended
  cases first : firstEnd? reports e.host with
  | none =>
    rw [firstEnd?_eq_none_iff.mp first r reported same] at terminal
    cases terminal
  | some old => rw [← find?_heard first, find?_of_mem (nodup_heard reports) member]

end Hosts

namespace SessionStatus

/-- What the reports have made of the status, all of them for as many hosts. -/
structure Noted (total : Int) (reports : List HostEntry) (s : SessionStatus) : Prop where
  hosts : s.hosts = Hosts.heard reports
  begun : reports ≠ [] → s.totalHosts = some total ∧ s.phase = Hosts.phase s.hosts s.expected

variable {total : Int} {reports : List HostEntry} {s : SessionStatus} {entry : HostEntry}

theorem Noted.accepted (noted : Noted total reports s)
    (accepted : (s.report entry (some total)).2 = true) :
    Noted total (reports ++ [entry]) (s.report entry (some total)).1 := by
  unfold SessionStatus.report at accepted ⊢
  cases heard : Hosts.report? s.hosts entry with
  | none => simp [heard] at accepted
  | some hosts =>
    refine ⟨?_, fun _ => ⟨by simp [heard], by simp [heard, SessionStatus.expected]⟩⟩
    simp [Hosts.heard_concat, ← noted.hosts, Hosts.hear, heard]

theorem Noted.refused (noted : Noted total reports s)
    (refused : (s.report entry (some total)).2 = false) : Noted total (reports ++ [entry]) s := by
  unfold SessionStatus.report at refused
  cases heard : Hosts.report? s.hosts entry with
  | some hosts => simp [heard] at refused
  | none =>
    refine ⟨?_, fun _ => noted.begun ?_⟩
    · simp [Hosts.heard_concat, ← noted.hosts, Hosts.hear, heard]
    · -- The first report would have been accepted.
      rintro rfl
      rw [noted.hosts] at heard
      cases heard

end SessionStatus

namespace SessionKind

variable (kind : SessionKind) (nameSpace name : String)

/-- The store replies to a program, and nobody else writes the session. -/
def alone : Terms Request Store where
  world := Store.Answers
  rely s t := t.find? kind.resource nameSpace name = s.find? kind.resource nameSpace name
  guarantee _ _ _ := True
  rely_refl _ := rfl
  rely_trans first second := second.trans first

/-- What a program exchanges between two states of the store, while nobody else writes the session
and every read and write of it succeeds. -/
structure Undisturbed (trace : List (Exchange Request)) (s t : Store) : Prop where
  along : Along (kind.alone nameSpace name) trace s t
  unbroken : ∀ e ∈ trace, kind.isBroken nameSpace name e = false

/-- The session is stored with what the reports have made of it. -/
def Records (total : Int) (reports : List HostEntry) (s : Store) : Prop :=
  ∃ session, s.find? kind.resource nameSpace name = some session ∧
    ((kind.status? session).getD {}).Noted total reports

variable {kind nameSpace name} {s t : Store} {trace first second : List (Exchange Request)}
  {total : Int} {reports : List HostEntry}

theorem Undisturbed.split (course : kind.Undisturbed nameSpace name (first ++ second) s t) :
    ∃ between, kind.Undisturbed nameSpace name first s between ∧
      kind.Undisturbed nameSpace name second between t := by
  obtain ⟨between, left, right⟩ := course.along.split
  obtain ⟨before, after⟩ := List.forall_mem_append.mp course.unbroken
  exact ⟨between, ⟨left, before⟩, ⟨right, after⟩⟩

theorem find?_eq_of_alone (along : Along (kind.alone nameSpace name) trace s t)
    (apart : Apart (.writing kind.resource) trace) :
    t.find? kind.resource nameSpace name = s.find? kind.resource nameSpace name := by
  induction trace generalizing s with
  | nil => exact along
  | cons e rest ih =>
    obtain ⟨before, after, others, ⟨answers, _⟩, rest⟩ := along
    obtain ⟨other, apart⟩ := (apart_cons _ e _).mp apart
    rw [ih rest apart, answers.find?_eq other]
    exact others

theorem Records.of_fresh {session : Resource kind.resource}
    (found : s.find? kind.resource nameSpace name = some session)
    (fresh : kind.hosts session = []) : kind.Records nameSpace name total [] s :=
  ⟨session, found, fresh, fun some => absurd rfl some⟩

theorem Records.quiet (records : kind.Records nameSpace name total reports s)
    (course : kind.Undisturbed nameSpace name trace s t)
    (apart : Apart (.writing kind.resource) trace) :
    kind.Records nameSpace name total reports t := by
  obtain ⟨session, found, noted⟩ := records
  exact ⟨session, (find?_eq_of_alone course.along apart).trans found, noted⟩

theorem status?_stamped (session : Resource kind.resource) (version : Option String) :
    kind.status? (session.stamped version) = kind.status? session := by
  cases kind <;> rfl

theorem status?_report (session : Resource kind.resource) (entry : HostEntry) (total : Option Int) :
    kind.status? (kind.report entry total session).1 =
      some (((kind.status? session).getD {}).report entry total).1 := by
  cases kind <;> rfl

theorem report_snd (session : Resource kind.resource) (entry : HostEntry) (total : Option Int) :
    (kind.report entry total session).2 =
      (((kind.status? session).getD {}).report entry total).2 := by
  cases kind <;> rfl

theorem read_alone {rest : List (Exchange Request)} {found : Option (Resource kind.resource)}
    (along : Along (kind.alone nameSpace name)
      (⟨.get kind.resource nameSpace name, .ok found⟩ :: rest) s t) :
    found = s.find? kind.resource nameSpace name ∧
      ∃ next, next.find? kind.resource nameSpace name = s.find? kind.resource nameSpace name ∧
        Along (kind.alone nameSpace name) rest next t := by
  obtain ⟨before, after, others, ⟨answers, _⟩, rest⟩ := along
  rcases answers with ⟨same, rfl⟩ | ⟨_, _, impossible⟩
  · exact ⟨(Except.ok.inj same).trans others, after, others, rest⟩
  · cases impossible

theorem written_alone {object written : Resource kind.resource}
    (key : object.nameSpace = nameSpace ∧ object.name = name)
    (along : Along (kind.alone nameSpace name)
      [⟨.replaceStatus kind.resource object, .ok written⟩] s t) :
    ∃ version, t.find? kind.resource nameSpace name = some (object.stamped version) := by
  obtain ⟨before, after, _, ⟨answers, _⟩, others⟩ := along
  let u : Update kind.resource := kind.update ⟨.conflict, default, none⟩
  have replies : before.Answers ⟨u.write object, .ok written⟩ after := answers
  rcases Update.replies_write replies with ⟨_, impossible, _⟩ | ⟨_, _, _, _, rfl⟩
  · cases impossible
  · have stored := Store.find?_accept_self before object
    rw [key.1, key.2] at stored
    exact ⟨_, Eq.trans others stored⟩

theorem ok_of_tried {r : HostReport} {flag : Bool}
    {result : Except Failure (Option (Resource kind.resource)) × Bool}
    (tried : (kind.update r).Tried nameSpace name flag trace result)
    (unbroken : ∀ e ∈ trace, kind.isBroken nameSpace name e = false) :
    ∃ found, result.1 = .ok found := by
  have intact {e : Exchange Request} (member : e ∈ trace) :
      ¬ (kind.update r).Broken nameSpace name e := by
    intro broken
    have no := unbroken e member
    rw [isBroken_of_update broken] at no
    cases no
  cases tried with
  | unread => exact (intact (.head _) (.inl ⟨_, rfl⟩)).elim
  | refused => exact (intact (.tail _ (.head _)) (.inr ⟨_, _, rfl⟩)).elim
  | gone | unchanged | accepted => exact ⟨_, rfl⟩

theorem tried_of_unbroken {r : HostReport}
    {result : Except Failure (Option (Resource kind.resource)) × Bool}
    (path : Path ((kind.update r).code nameSpace name) trace (.done result))
    (unbroken : ∀ e ∈ trace, kind.isBroken nameSpace name e = false) :
    (kind.update r).Tried nameSpace name false trace result := by
  have fails {n : Nat} {flag after : Bool} {part : List (Exchange Request)} {failure : Failure}
      (attempt : Path ((kind.update r).attempt nameSpace name n flag) part
        (.done (.error failure, after)))
      (within : ∀ e ∈ part, kind.isBroken nameSpace name e = false) : False := by
    obtain ⟨_, impossible⟩ := ok_of_tried (Update.tried_of_path attempt) within
    cases impossible
  cases Update.rounds_of_path path with
  | done attempt => exact Update.tried_of_path attempt
  | failed attempt => exact (fails attempt unbroken).elim
  | spent attempt => exact (fails attempt unbroken).elim
  | again attempt => exact (fails attempt (List.forall_mem_append.mp unbroken).1).elim

/-- A report does not fail, and what it has to say is recorded. -/
theorem Records.report {policy : RetryPolicy} {entry : HostEntry} {result : Except Failure Bool}
    (records : kind.Records nameSpace name total reports s)
    (path : Path (Status.reportHost policy kind nameSpace name entry (some total)).run trace
      (.done result))
    (course : kind.Undisturbed nameSpace name trace s t) :
    (∃ accepted, result = .ok accepted) ∧
      kind.Records nameSpace name total (reports ++ [entry]) t := by
  let r : HostReport := ⟨policy, entry, some total⟩
  have parts : Path (((kind.update r).code nameSpace name).bind fun x =>
      .done (x.1.map fun _ => x.2)) trace (.done result) := path
  obtain ⟨⟨answer, flag⟩, first, second, rfl, updating, ended⟩ := Path.of_bind parts
  obtain ⟨rfl, rfl⟩ := Path.of_done ended
  rw [List.append_nil] at course
  obtain ⟨along, unbroken⟩ := course
  obtain ⟨session, found, noted⟩ := records
  have tried := tried_of_unbroken updating unbroken
  obtain ⟨_, succeeded⟩ := ok_of_tried tried unbroken
  -- A session that is there, and that nobody else writes, is neither missing nor in conflict.
  cases tried with
  | unread | refused => cases succeeded
  | gone =>
    obtain ⟨missing, _⟩ := read_alone along
    cases missing.trans found
  | @unchanged old same =>
    obtain ⟨read, next, kept, later⟩ := read_alone along
    obtain rfl := Option.some.inj (read.trans found)
    have refused : (((kind.status? old).getD {}).report entry (some total)).2 = false :=
      (report_snd old entry (some total)).symm.trans same
    exact ⟨⟨false, rfl⟩, old, (Eq.trans later kept).trans found, noted.refused refused⟩
  | @accepted old written changed =>
    obtain ⟨read, next, kept, later⟩ := read_alone along
    obtain rfl := Option.some.inj (read.trans found)
    have regular := kind.regular r
    have key := Store.find?_key found
    obtain ⟨version, stored⟩ := written_alone
      ⟨(regular.nameSpace old).trans key.1, (regular.name old).trans key.2⟩ later
    have accepted : (((kind.status? old).getD {}).report entry (some total)).2 = true :=
      (report_snd old entry (some total)).symm.trans changed
    refine ⟨⟨true, rfl⟩, _, stored, ?_⟩
    have status := status?_report old entry (some total)
    rw [status?_stamped, show (kind.update r).apply old = (kind.report entry (some total) old).1
      from rfl, status]
    exact noted.accepted accepted

end SessionKind

end ClusterBackup
