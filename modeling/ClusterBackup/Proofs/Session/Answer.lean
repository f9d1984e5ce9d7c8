import ClusterBackup.Proofs.Session.Entries
import ClusterBackup.Proofs.Status.Attempts

/-! What the answer to a report on a session says.

A caller that is told yes goes on as the owner of a stored entry. That entry may be missing:
the answer is the one of the last try that had something to write, and it is still given when
the write was refused and the session is gone by the next reading. -/

set_option autoImplicit false

namespace ClusterBackup

open Program Simulation

namespace SessionKind

def Writes (kind : SessionKind) (entry : HostEntry)
    (reply : Except Failure (Resource kind.resource)) (trace : List (Exchange Request)) : Prop :=
  ∃ session, Hosts.find? (kind.hosts session) entry.host = some entry ∧
    ⟨.replaceStatus kind.resource session, reply⟩ ∈ trace

variable {kind : SessionKind} {policy : RetryPolicy} {nameSpace name : String} {entry : HostEntry}
  {total : Option Int} {trace : List (Exchange Request)} {result : Except Failure Bool}

theorem find?_report {old session : Resource kind.resource}
    (accepted : kind.report entry total old = (session, true)) :
    Hosts.find? (kind.hosts session) entry.host = some entry := by
  have reported (s : SessionStatus) (some : (s.report entry total).2 = true) :
      Hosts.find? (s.report entry total).1.hosts entry.host = .some entry := by
    unfold SessionStatus.report at some ⊢
    cases outcome : Hosts.report? s.hosts entry with
    | none => simp [outcome] at some
    | some new =>
      obtain ⟨rfl, _⟩ := Hosts.report?_eq_some outcome
      simpa [outcome] using Hosts.find?_put s.hosts entry
  have yes : (kind.report entry total old).2 = true := congrArg Prod.snd accepted
  rw [show session = (kind.report entry total old).1 from (congrArg Prod.fst accepted).symm]
  cases kind <;> exact reported _ yes

theorem writes_iff {r : HostReport} {reply : Except Failure (Resource kind.resource)}
    (carried : (kind.update r).Carried nameSpace name trace) :
    kind.Writes r.entry reply trace ↔
      ∃ session, ⟨(kind.update r).write session, reply⟩ ∈ trace := by
  constructor
  · rintro ⟨session, _, member⟩
    exact ⟨session, member⟩
  · rintro ⟨session, member⟩
    obtain ⟨old, _, changed⟩ := carried session reply member
    exact ⟨session, find?_report changed, member⟩

/-- The answer is yes exactly if a write with the entry was accepted, or one was refused and the
session was found missing. -/
theorem reportHost_true_iff
    (path : Path (Status.reportHost policy kind nameSpace name entry total).run trace
      (.done result)) :
    result = .ok true ↔ (∃ written, kind.Writes entry (.ok written) trace) ∨
      (∃ failure, kind.Writes entry (.error failure) trace) ∧
        ⟨.get kind.resource nameSpace name, .ok none⟩ ∈ trace := by
  let r : HostReport := ⟨policy, entry, total⟩
  have parts : Path (((kind.update r).code nameSpace name).bind fun x =>
      .done (x.1.map fun _ => x.2)) trace (.done result) := path
  obtain ⟨⟨answer, flag⟩, first, second, rfl, updating, ended⟩ := Path.of_bind parts
  obtain ⟨rfl, rfl⟩ := Path.of_done ended
  rw [List.append_nil]
  have account := Update.account updating
  have accepted : (∃ written, kind.Writes entry (.ok written) first) ↔
      (∃ session, answer = .ok (some session)) ∧ flag = true := by
    rw [← account.accepted, Update.Accepted, exists_comm]
    exact exists_congr fun written => writes_iff (r := r) account.carried
  have refused (missing : answer = .ok none) :
      (∃ failure, kind.Writes entry (.error failure) first) ↔ flag = true := by
    rw [← account.refused (by simp [missing]), Update.Refused, exists_comm]
    exact exists_congr fun failure => writes_iff (r := r) account.carried
  have gone : ⟨.get kind.resource nameSpace name, .ok none⟩ ∈ first ↔ answer = .ok none :=
    account.gone
  rw [accepted, gone]
  -- The session was read and written, or it was missing in the end, or there was a failure.
  rcases answer with failure | _ | session
  · simp [Except.map]
  · rw [refused rfl]
    simp [Except.map]
  · simp [Except.map]

section

/-- The session is there when it is first read, and gone after the first write was refused. -/
def vanishing {β : Type} : Request β → Bool → β × Bool
  | .get .backupSession _ _, true => (.ok (some Backup.created), false)
  | .replaceStatus _ object, present =>
    (.error (.conflict (object.key ++ " is stale")), present)
  | r, present => (Store.quiet r, present)

/-- What the host that begins its share exchanges with it. -/
def lost : List (Exchange Request) :=
  (follow vanishing 9 (Status.reportHost .conflict .backup "apps" "nightly"
    { host := "db-0", phase := .running } none).run true).1

theorem reportHost_true_iff_vanishing :
    Path (Status.reportHost .conflict .backup "apps" "nightly"
      { host := "db-0", phase := .running } none).run lost (.done (.ok true)) ∧
    (¬ ∃ written, SessionKind.backup.Writes { host := "db-0", phase := .running } (.ok written)
      lost) ∧
    ∃ failure, SessionKind.backup.Writes { host := "db-0", phase := .running } (.error failure)
      lost := by
  have path : Path (Status.reportHost .conflict .backup "apps" "nightly"
      { host := "db-0", phase := .running } none).run lost (.done (.ok true)) :=
    follow_path vanishing 9 _ true
  have none : ∀ e ∈ lost, Store.isAccepted e = false := by decide
  have unwritten : ¬ ∃ written, SessionKind.backup.Writes
      { host := "db-0", phase := .running } (.ok written) lost := by
    rintro ⟨written, session, _, member⟩
    exact Bool.false_ne_true (none _ member).symm
  exact ⟨path, unwritten, ((reportHost_true_iff path).mp rfl |>.resolve_left unwritten).1⟩

end

end SessionKind

end ClusterBackup
