import ClusterBackup.Proofs.Restore.Selection
import ClusterBackup.Proofs.Session.Outcome

/-! What has been restored on a host that a session records as succeeded.

Every path of its rule has been. Of its snapshots those have been that the tool listed when it
was asked for them; one that is not listed is passed over without a failure. -/

set_option autoImplicit false

namespace ClusterBackup

open Program SessionKind

namespace RestoreSessionSpec

variable {spec : RestoreSessionSpec} {rule : RestoreRule}

theorem exclusive_of_validate (valid : spec.validate = .ok ()) (member : rule ∈ spec.rules) :
    rule.snapshots = [] ∨ rule.paths = [] :=
  (validate_eq_ok_iff.mp valid).exclusive rule member

theorem mem_of_ruleFor? {host : String} (applies : spec.ruleFor? host = some rule) :
    rule ∈ spec.rules := by
  unfold ruleFor? at applies
  split at applies
  · rename_i found
    cases applies
    exact List.mem_of_find?_eq_some found
  · exact List.mem_of_find?_eq_some applies

end RestoreSessionSpec

namespace Restore

variable {setting : Setting} {host : Host} {nameSpace name : String}
  {trace : List (Exchange Request)} {result : Except Failure Unit}

theorem uncalled_of_tells {kind : SessionKind} {entry : HostEntry} {answer : Except Failure Bool}
    (path : Path (tells kind setting nameSpace name entry).run trace (.done answer)) :
    toolCalls trace = [] := by
  obtain ⟨r, updating, _⟩ := of_tells path
  exact Touches.toolCalls_eq_nil (Status.change_touches ..) updating (by simp)

theorem Looks.uncalled {kind : SessionKind} (looks : kind.Looks trace) : toolCalls trace = [] :=
  (looks.apart (by simp)).toolCalls_eq_nil

/-- A host writes that it has succeeded only after the tool has done its work. -/
theorem performed_of_succeeded {object written : RestoreSession} {entry : HostEntry}
    (path : Path (Restore.run setting host nameSpace name).run trace (.done result))
    (member : ⟨.replaceStatus .restoreSession object, .ok written⟩ ∈ trace)
    (found : Hosts.find? (SessionKind.restore.hosts object) host.name = some entry)
    (succeeded : entry.phase = .succeeded) :
    ∃ session : RestoreSession, ∃ rule,
      trace.head? = some ⟨.get .restoreSession nameSpace name, .ok (some session)⟩ ∧
      session.spec.validate = .ok () ∧ session.spec.ruleFor? host.name = some rule ∧
      Performed (toolCalls trace) (rule.source.getD host.name) rule := by
  -- Only the last report of a share can say that it succeeded, and the work is done before it.
  cases Course.of_restore path with
  | idle looks => exact absurd member looks.unwritten
  | unreported looks reported =>
    rcases List.mem_append.mp member with member | member
    · exact absurd member looks.unwritten
    · have first := entry_of_tells reported member
      obtain rfl := Option.some.inj (found.symm.trans first)
      cases succeeded
  | @barred _ _ _ failure _ took _ looks wrong closed =>
    obtain rfl := entry_of_barred looks closed member found
    cases succeeded
  | @taken earlier opening between working closing session work outcome now took answer looks read
      opened waits duty worked closed =>
    rcases entry_of_taken looks opened waits duty worked closed member found with
      rfl | ⟨rfl, _⟩
    · cases succeeded
    cases outcome with
    | error failure => cases succeeded
    | ok _ =>
      cases duty with
      | restore session rule sound applies =>
        have calls : toolCalls (earlier ++ (opening ++ (between ++ (working ++ ⟨.now, now⟩ ::
            ⟨.publish (partEvent session.reference .restore host.name took (.ok ())), ()⟩ ::
            closing)))) = toolCalls working := by
          simp [Looks.uncalled looks, uncalled_of_tells opened, Looks.uncalled waits,
            uncalled_of_tells closed, toolCall?]
        refine ⟨session, rule, by rw [List.head?_append, read]; rfl, ?_, applies, ?_⟩
        · cases valid : RestoreSessionSpec.validate session.spec with
          | ok _ => rfl
          | error failure =>
            simp only [objection?, valid] at sound
            cases sound
        · rw [calls]
          exact performed_of_work worked

/-- A restore session records a host as succeeded only if every path of the rule for the host was
restored. Of the snapshots in the rule exactly those were restored that are in the list that the
tool gave when it was asked for them. -/
theorem succeeded_restores {object written : RestoreSession} {entry : HostEntry}
    (path : Path (Restore.run setting host nameSpace name).run trace (.done result))
    (member : ⟨.replaceStatus .restoreSession object, .ok written⟩ ∈ trace)
    (found : Hosts.find? (SessionKind.restore.hosts object) host.name = some entry)
    (succeeded : entry.phase = .succeeded) :
    ∃ session : RestoreSession, ∃ rule,
      trace.head? = some ⟨.get .restoreSession nameSpace name, .ok (some session)⟩ ∧
      session.spec.ruleFor? host.name = some rule ∧
      (∀ path ∈ rule.paths,
        Restored (toolCalls trace) path (rule.source.getD host.name) none) ∧
      (rule.snapshots ≠ [] → ∃ listing, Listed (toolCalls trace) rule.snapshots listing ∧
        ∀ id, (∃ path, Restored (toolCalls trace) path (rule.source.getD host.name) (some id)) ↔
          ∃ s ∈ listing, s.id = id) := by
  obtain ⟨session, rule, read, valid, applies, performed⟩ :=
    performed_of_succeeded path member found succeeded
  refine ⟨session, rule, read, applies, fun path listed => ?_, performed.snapshots⟩
  rcases RestoreSessionSpec.exclusive_of_validate valid
    (RestoreSessionSpec.mem_of_ruleFor? applies) with none | none
  · exact performed.paths none path listed
  · rw [none] at listed
    exact absurd listed List.not_mem_nil

section

open Simulation

def pinned : RestoreSession :=
  { metadata := Cluster.Metadata.named "apps" "again"
    spec := { repository := "default", rules := [{ snapshots := ["abc123"] }] } }

def vault : Repository :=
  { metadata := Cluster.Metadata.named "apps" "default"
    spec := { backend := { gcs := some ⟨"bucket", ""⟩, secretName := "keys" } } }

/-- The tool finds none of the snapshots that it is asked for. -/
def unlisted : {β : Type} → Request β → β
  | _, .run _ => .ok "[]"
  | _, r => Store.quiet r

def passedOver : List (Exchange Request) × Program Request (Except Failure Unit) × Store :=
  follow (Store.serve unlisted) 40 (run ⟨{}, .conflict⟩ participant "apps" "again").run
    (Store.accept (Store.accept { secrets := [Backup.Halting.keys] } .restoreSession pinned).2
      .repository vault).2

def specRead? : Exchange Request → Option RestoreSessionSpec
  | ⟨.get .restoreSession _ _, .ok (some session)⟩ => some session.spec
  | _ => none

/-- The host is recorded as succeeded, and nothing was restored. -/
theorem succeeded_restores_unlisted :
    (passedOver.2.2.find? .restoreSession "apps" "again").map SessionKind.restore.hosts =
      some [{ host := "db-0", phase := .succeeded, duration := some "0s" }] ∧
    (∃ listing, Listed (toolCalls passedOver.1) ["abc123"] listing ∧
      ∀ id, (∃ path, Restored (toolCalls passedOver.1) path "db-0" (some id)) ↔
        ∃ s ∈ listing, s.id = id) ∧
    ∀ path, ¬ Restored (toolCalls passedOver.1) path "db-0" (some "abc123") := by
  have path : Path (run ⟨{}, .conflict⟩ participant "apps" "again").run passedOver.1
      (.done (.ok ())) :=
    follow_path (Store.serve unlisted) 40 _ _
  let last : RestoreSession := (SessionKind.restore.report (Backup.finalEntry "db-0" "0s" (.ok ()))
    none (Store.withVersion 3 (SessionKind.restore.report (Backup.running participant) none
      (Store.withVersion 1 pinned)).1)).1
  have member : ⟨.replaceStatus .restoreSession last, .ok (Store.withVersion 4 last)⟩ ∈
      passedOver.1 := List.mem_of_getElem? (i := 11) (by rfl)
  obtain ⟨session, rule, read, applies, _, listed⟩ :=
    succeeded_restores path member (by rfl) (by rfl)
  have same : session.spec = pinned.spec :=
    Option.some.inj ((congrArg (·.bind specRead?) read).symm.trans (by rfl))
  rw [same] at applies
  cases applies
  refine ⟨by rfl, listed (List.cons_ne_nil _ _), ?_⟩
  rintro path ⟨invocation, output, called, restore⟩
  have commands : (toolCalls passedOver.1).map (·.1.command) = ["snapshots"] := by rfl
  have command : invocation.command ∈ (toolCalls passedOver.1).map (·.1.command) :=
    List.mem_map_of_mem called
  obtain ⟨more, arguments⟩ := restore
  have restores : invocation.command = "restore" := by
    rw [Invocation.command, ← arguments]
    rfl
  rw [commands, restores] at command
  exact absurd command (by decide)

end

end Restore

end ClusterBackup
