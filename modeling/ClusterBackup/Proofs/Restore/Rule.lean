import ClusterBackup.Proofs.Backup.Footprint
import ClusterBackup.Proofs.Program.Ending
import ClusterBackup.Run.Restore

/-! What is restored for a rule.

A rule for paths restores each of them. A rule for snapshots restores what the tool lists when it
is asked for them, and the list need not have all of them. -/

set_option autoImplicit false

namespace ClusterBackup

open Program

theorem Tool.snapshots_touches (t : Tool) (ids : List String) : (t.snapshots ids).Touches [.tool] :=
  .bind (t.run_touches _) fun _ => trivial

theorem Backup.repositoryTool_touches (setting : Setting) (nameSpace name : String) :
    (repositoryTool setting nameSpace name).Touches [.reading .repository, .secrets, .files] := by
  have finds {α : Type} (failure : Failure) (object : Option α) :
      (Action.found failure object).Touches [.reading .repository, .secrets, .files] := by
    cases object <;> trivial
  refine .bind (.ask (.head _)) fun _ => .bind (finds _ _) fun _ => ?_
  refine .bind (.ask (.tail _ (.head _))) fun _ => .bind (finds _ _) fun _ => ?_
  exact .bind ((SetupPlan.perform_touches _).mono (by decide)) fun _ => .pure _

namespace Restore

def work (setting : Setting) (host : Host) (nameSpace repository : String) (rule : RestoreRule) :
    Action Unit := do
  applyRule host (← Backup.repositoryTool setting nameSpace repository) rule

theorem applyRule_touches (host : Host) (tool : Tool) (rule : RestoreRule) :
    (applyRule host tool rule).Touches [.tool] := by
  unfold applyRule
  dsimp only
  split
  · exact .forM fun _ => .bind (tool.run_touches _) fun _ => .pure _
  · refine .bind (tool.snapshots_touches _) fun _ => .forM fun snapshot => ?_
    split
    · exact .throw _
    · exact .bind (tool.run_touches _) fun _ => .pure _

theorem work_touches (setting : Setting) (host : Host) (nameSpace repository : String)
    (rule : RestoreRule) : (work setting host nameSpace repository rule).Touches
      [.reading .repository, .secrets, .files, .tool] :=
  .bind ((Backup.repositoryTool_touches ..).mono (by decide)) fun _ =>
    (applyRule_touches ..).mono (by decide)

section

variable (calls : List (Invocation × Except Failure String))

/-- The tool has restored a path, from a certain snapshot or from the latest one of a host. -/
def Restored (path source : String) (snapshot : Option String) : Prop :=
  ∃ invocation output, (invocation, .ok output) ∈ calls ∧
    Tool.restore path source snapshot <+: invocation.arguments

/-- The tool has listed these snapshots when it was asked for some ids. -/
def Listed (ids : List String) (listing : List StoredSnapshot) : Prop :=
  ∃ invocation output, (invocation, .ok output) ∈ calls ∧
    Tool.listSnapshots ids <+: invocation.arguments ∧ StoredSnapshot.listOf output = .ok listing

/-- What the tool has done for a rule. -/
structure Performed (source : String) (rule : RestoreRule) : Prop where
  paths : rule.snapshots = [] → ∀ path ∈ rule.paths, Restored calls path source none
  snapshots : rule.snapshots ≠ [] → ∃ listing, Listed calls rule.snapshots listing ∧
    ∀ id, (∃ path, Restored calls path source (some id)) ↔ ∃ s ∈ listing, s.id = id

end

variable {setting : Setting} {host : Host} {tool : Tool} {nameSpace repository : String}
  {rule : RestoreRule} {trace : List (Exchange Request)}

theorem of_run {arguments : List String} {a : PUnit}
    (path : Path (do let _ ← tool.run arguments; pure a : Action PUnit).run trace
      (.done (.ok ⟨⟩))) :
    ∃ output, trace = [⟨.run (tool.invocation arguments), .ok output⟩] := by
  rcases Path.of_bind_ok path with ⟨_, impossible, _⟩ | ⟨output, first, rest, rfl, ran, ended⟩
  · cases impossible
  · obtain ⟨rfl, _⟩ := Path.of_done ended
    obtain rfl := Action.of_ask ran
    exact ⟨output, List.append_nil _⟩

theorem Restored.of_mem {path source output : String} {snapshot : Option String}
    (member : ⟨.run (tool.invocation (Tool.restore path source snapshot)), .ok output⟩ ∈ trace) :
    Restored (toolCalls trace) path source snapshot :=
  ⟨_, output, List.mem_filterMap.mpr ⟨_, member, rfl⟩, List.prefix_append _ _⟩

theorem eq_of_restore {path other source target id : String} {snapshot : StoredSnapshot}
    (same : Tool.restore path source (some id) <+:
      (tool.invocation (Tool.restore other target (some snapshot.id))).arguments) :
    snapshot.id = id := by
  have rest := (List.cons_prefix_cons.mp same).2
  exact (List.cons_prefix_cons.mp rest).1.symm

theorem of_snapshot {source : String} {snapshot : StoredSnapshot}
    (path : Path (match snapshot.paths with
      | [] => throw (.validation ("snapshot " ++ snapshot.id ++ " records no path"))
      | path :: _ => do
        let _ ← tool.run (Tool.restore path source (some snapshot.id))
        pure ⟨⟩ : Action PUnit).run trace (.done (.ok ⟨⟩))) :
    ∃ path ∈ snapshot.paths.head?, ∃ output,
      trace = [⟨.run (tool.invocation (Tool.restore path source (some snapshot.id))),
        .ok output⟩] := by
  cases paths : snapshot.paths with
  | nil =>
    rw [paths] at path
    cases (Path.of_done path).2
  | cons first rest =>
    rw [paths] at path
    exact ⟨first, rfl, of_run path⟩

theorem of_snapshots {ids : List String} {listing : List StoredSnapshot}
    (path : Path (tool.snapshots ids).run trace (.done (.ok listing))) :
    ∃ output, trace = [⟨.run (tool.invocation (Tool.listSnapshots ids)), .ok output⟩] ∧
      StoredSnapshot.listOf output = .ok listing := by
  rcases Path.of_bind_ok path with ⟨_, impossible, _⟩ | ⟨output, first, rest, rfl, ran, ended⟩
  · cases impossible
  · obtain ⟨rfl, parsed⟩ := Path.of_done ended
    obtain rfl := Action.of_ask ran
    exact ⟨output, List.append_nil _, parsed.symm⟩

theorem performed_of_applyRule
    (path : Path (applyRule host tool rule).run trace (.done (.ok ()))) :
    Performed (toolCalls trace) (rule.source.getD host.name) rule := by
  unfold applyRule at path
  dsimp only at path
  generalize rule.source.getD host.name = source at path ⊢
  cases wanted : rule.snapshots with
  | nil =>
    rw [wanted] at path
    refine ⟨fun _ name member => ?_, fun some => absurd wanted some⟩
    obtain ⟨part, within, restored⟩ := (Action.of_forM path).1 name member
    obtain ⟨output, rfl⟩ := of_run restored
    exact .of_mem (within (List.mem_singleton_self _))
  | cons id ids =>
    rw [wanted] at path
    refine ⟨fun none => absurd (wanted.symm.trans none) nofun, fun _ => ?_⟩
    rcases Path.of_bind_ok path with
      ⟨_, impossible, _⟩ | ⟨listing, first, rest, rfl, listed, restoring⟩
    · cases impossible
    obtain ⟨output, rfl, parsed⟩ := of_snapshots listed
    obtain ⟨each, all⟩ := Action.of_forM restoring
    refine ⟨listing, ⟨_, output, List.mem_cons_self, ?_, parsed⟩, fun id => ⟨?_, ?_⟩⟩
    · rw [wanted]
      exact List.prefix_append _ _
    · rintro ⟨path, invocation, output, member, same⟩
      rcases List.mem_cons.mp member with listing | member
      · -- The call that lists snapshots restores nothing.
        cases listing
        exact absurd (List.cons_prefix_cons.mp same).1 (by decide)
      · obtain ⟨e, exchanged, called⟩ := List.mem_filterMap.mp member
        obtain ⟨s, listed, part, here, restored⟩ := all e exchanged
        obtain ⟨other, _, output, rfl⟩ := of_snapshot restored
        obtain rfl := List.mem_singleton.mp here
        cases called
        exact ⟨s, listed, eq_of_restore same⟩
    · rintro ⟨s, member, rfl⟩
      obtain ⟨part, within, restored⟩ := each s member
      obtain ⟨path, first, output, rfl⟩ := of_snapshot restored
      exact ⟨path, .of_mem (List.mem_cons_of_mem _ (within (List.mem_singleton_self _)))⟩

theorem performed_of_work
    (path : Path (work setting host nameSpace repository rule).run trace (.done (.ok ()))) :
    Performed (toolCalls trace) (rule.source.getD host.name) rule := by
  rcases Path.of_bind_ok path with
    ⟨_, impossible, _⟩ | ⟨tool, first, rest, rfl, prepared, applied⟩
  · cases impossible
  · have uncalled := Touches.toolCalls_eq_nil (Backup.repositoryTool_touches ..) prepared (by decide)
    rw [toolCalls_append, uncalled, List.nil_append]
    exact performed_of_applyRule applied

end Restore

end ClusterBackup
