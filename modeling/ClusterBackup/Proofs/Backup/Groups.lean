import ClusterBackup.Proofs.Backup.Footprint
import ClusterBackup.Proofs.Program.Ending
import Mathlib.Algebra.Ring.Int.Defs

/-! What a run asks of the tool for its groups, and what it tells about them.

A group is backed up, and then its old snapshots are forgotten if it has a policy, whether the
backup succeeded or not. The first group with a failure is the last one. -/

set_option autoImplicit false

namespace ClusterBackup

open Program

namespace Backup

def invoking (tool : Tool) (arguments : List String) : Invocation :=
  { program := "/bin/restic", arguments := arguments ++ tool.commonArguments
    bindings := tool.environment.bindings }

def counted (option : String) : Option Nat → List String
  | none | some 0 => []
  | some n => [option, Number.textOf n]

def kept (policy : Retention) : List String :=
  counted "--keep-last" policy.last ++ counted "--keep-hourly" policy.hourly
    ++ counted "--keep-daily" policy.daily ++ counted "--keep-weekly" policy.weekly
    ++ counted "--keep-monthly" policy.monthly ++ counted "--keep-yearly" policy.yearly
    ++ policy.tags.flatMap fun tag => ["--keep-tag", tag]

/-- One group with the outcomes of its calls. The second outcome is of no account for a group
without a policy. -/
structure Share where
  group : FileGroup
  backup : Except Failure String
  forgetting : Except Failure String

namespace Share

variable (host : Host) (config : Configuration) (tool : Tool) (s : Share)

def forgotten : Option (Except Failure String) :=
  if kept s.group.retention = [] then none else some s.forgetting

def report : Except Failure (Option String) :=
  match s.forgotten with
  | none => .ok none
  | some outcome => outcome.map some

/-- A failed backup goes before failed forgetting. -/
def failure? : Option Failure :=
  match s.backup, s.forgotten with
  | .error failure, _ => some failure
  | .ok _, some (.error failure) => some failure
  | .ok _, _ => none

def removed : Int :=
  match s.forgotten with
  | some (.ok output) => removedCount output
  | _ => 0

def tags : List String :=
  s.group.tags ++ if config.name ∈ s.group.tags then [] else [config.name]

def hostArguments : List String := if host.name = "" then [] else ["--host", host.name]

def backupCall : Invocation × Except Failure String :=
  (invoking tool (["backup", s.group.path] ++ hostArguments host
    ++ (s.tags config).flatMap fun tag => ["--tag", tag]), s.backup)

def forgetCall? : Option (Invocation × Except Failure String) :=
  if kept s.group.retention = [] then none
  else some (invoking tool (["forget"] ++ kept s.group.retention
    ++ (if s.group.retention.prune then ["--prune"] else [])
    ++ (if s.group.retention.dryRun then ["--dry-run"] else [])
    ++ hostArguments host ++ ["--path", s.group.path]), s.forgetting)

def calls : List (Invocation × Except Failure String) :=
  s.backupCall host config tool :: (s.forgetCall? host tool).toList

def backupEvent : Event :=
  match s.backup with
  | .ok _ =>
    { object := config.reference, warning := false, reason := "SuccessfulBackup", action := "Backup"
      note := some ("Backed up pod:" ++ host.name ++ " path:" ++ s.group.path) }
  | .error failure =>
    { object := config.reference, warning := true, reason := "FailedToBackup", action := "Backup"
      note := some ("Error taking backup of " ++ s.group.path ++ ": " ++ failure.message) }

/-- Forgetting is told of when it fails. -/
def forgetEvent? : Option Event :=
  match s.forgotten with
  | some (.error failure) => some
    { object := config.reference, warning := true, reason := "FailedToRetention"
      action := "Retention"
      note := some ("Error forgetting snapshots of " ++ s.group.path ++ ": " ++ failure.message) }
  | _ => none

def events : List Event := s.backupEvent host config :: (s.forgetEvent? config).toList

def result : Except Failure Int :=
  match s.failure? with
  | some failure => .error failure
  | none => .ok s.removed

theorem result_eq (s : Share) :
    (do let _ ← s.backup; return ((← s.report).map removedCount).getD 0) = s.result := by
  unfold result failure? removed report
  cases s.backup with
  | error failure => rfl
  | ok output => rcases s.forgotten with _ | _ | _ <;> rfl

end Share

/-- The shares of the groups in order, up to the first that fails. -/
structure UntilFailure (groups : List FileGroup) (shares : List Share) : Prop where
  order : shares.map (·.group) <+: groups
  earlier : ∀ s ∈ shares.dropLast, s.failure? = none
  complete : (∀ s ∈ shares, s.failure? = none) → shares.map (·.group) = groups

def outcome (removed : Int) (shares : List Share) : Except Failure Int :=
  match shares.findSome? (·.failure?) with
  | some failure => .error failure
  | none => .ok (removed + (shares.map (·.removed)).sum)

namespace UntilFailure

variable {group : FileGroup} {groups : List FileGroup} {s : Share} {shares : List Share}

theorem nil : UntilFailure [] [] :=
  ⟨List.nil_prefix, by simp, fun _ => rfl⟩

theorem failed {failure : Failure} (failed : s.failure? = some failure) :
    UntilFailure (s.group :: groups) [s] := by
  refine ⟨by simp, by simp, fun fine => ?_⟩
  rw [fine s (List.mem_singleton_self s)] at failed
  cases failed

theorem cons (fine : s.failure? = none) (rest : UntilFailure groups shares) :
    UntilFailure (s.group :: groups) (s :: shares) := by
  refine ⟨?_, ?_, ?_⟩
  · simpa using rest.order
  · intro other member
    cases shares with
    | nil => simp at member
    | cons next shares =>
      rcases List.mem_cons.mp (by simpa using member) with rfl | member
      · exact fine
      · exact rest.earlier other (by simpa using member)
  · intro all
    rw [List.map_cons, rest.complete fun other member => all other (List.mem_cons_of_mem s member)]

end UntilFailure

theorem tagsOf_eq (config : Configuration) (s : Share) : tagsOf config s.group = s.tags config := by
  unfold tagsOf Share.tags
  by_cases present : config.name ∈ s.group.tags <;> simp [present]

theorem flatMap_filterMap_counted (counts : List (String × Option Nat)) :
    ((counts.filterMap fun x => (x.2.filter (0 < ·)).map (x.1, ·)).flatMap
      fun keep => [keep.1, Number.textOf keep.2]) = counts.flatMap fun x => counted x.1 x.2 := by
  induction counts with
  | nil => rfl
  | cons x rest ih =>
    obtain ⟨option, _ | _ | n⟩ := x
    · simpa [counted] using ih
    · simpa [counted, Option.filter] using ih
    · simpa [counted, Option.filter] using ih

theorem keeps_append_tags (policy : Retention) :
    (policy.keeps.flatMap fun keep => [keep.1, Number.textOf keep.2])
      ++ (policy.tags.flatMap fun tag => ["--keep-tag", tag]) = kept policy := by
  rw [Retention.keeps, flatMap_filterMap_counted]
  simp [kept]

theorem isEmpty_iff (policy : Retention) : policy.isEmpty = true ↔ kept policy = [] := by
  have pairs {α : Type} (option value : α → String) (xs : List α) :
      (xs.flatMap fun x => [option x, value x]) = [] ↔ xs = [] := by
    cases xs <;> simp
  rw [← keeps_append_tags, List.append_eq_nil_iff, pairs, pairs]
  simp [Retention.isEmpty]

theorem Share.backupCall_eq (host : Host) (config : Configuration) (tool : Tool) (s : Share) :
    s.backupCall host config tool =
      (tool.invocation (Tool.backup s.group.path host.name (s.tags config)), s.backup) := rfl

theorem Share.forgetCall?_eq (host : Host) (tool : Tool) (s : Share) :
    s.forgetCall? host tool =
      (Tool.forget? s.group.retention host.name s.group.path).map fun arguments =>
        (tool.invocation arguments, s.forgetting) := by
  unfold Share.forgetCall? Tool.forget?
  by_cases empty : kept s.group.retention = []
  · simp [empty, (isEmpty_iff _).mpr empty]
  · have policy : ¬ s.group.retention.isEmpty = true := mt (isEmpty_iff _).mp empty
    rw [if_neg empty, if_neg policy, ← keeps_append_tags]
    simp [invoking, Tool.invocation, hostArguments, Tool.hostArguments]

theorem forget?_eq_none_iff (policy : Retention) (host path : String) :
    Tool.forget? policy host path = none ↔ kept policy = [] := by
  rw [← isEmpty_iff]
  simp [Tool.forget?]

section

variable {host : Host} {config : Configuration} {tool : Tool} {metrics : Metrics}
  {trace : List (Exchange Request)}

theorem of_elapsedSince_bind {α : Type} {start : Duration} {f : Duration → Action α}
    {result : Except Failure α} (path : Path (elapsedSince start >>= f).run trace (.done result)) :
    ∃ now rest, trace = ⟨.now, now⟩ :: rest ∧
      Path (f ⟨now.nanos - start.nanos⟩).run rest (.done result) := by
  rcases Path.of_bind_ok path with ⟨failure, rfl, asked⟩ | ⟨took, first, second, rfl, asked, rest⟩
  · obtain ⟨now, none, _, ended⟩ := Action.of_tell_bind asked
    cases ended
  · obtain ⟨now, none, rfl, ended⟩ := Action.of_tell_bind asked
    obtain ⟨rfl, same⟩ := Path.of_done ended
    cases same
    exact ⟨now, second, rfl, rest⟩

theorem of_announcement {α : Type} {backup : Except Failure String}
    (event : Except Failure String → Event) {next : PUnit → Action α} {result : Except Failure α}
    (path : Path (match backup with
      | .ok output => Action.tell (.publish (event (.ok output))) >>= next
      | .error failure => Action.tell (.publish (event (.error failure))) >>= next).run trace
        (.done result)) :
    ∃ rest, trace = ⟨.publish (event backup), ()⟩ :: rest ∧
      Path (next ()).run rest (.done result) := by
  cases backup <;>
    obtain ⟨_, rest, rfl, ended⟩ := Action.of_tell_bind path <;>
    exact ⟨rest, rfl, ended⟩

theorem of_runForget {group : FileGroup} {result : Except Failure (Option String)}
    (backup : Except Failure String)
    (path : Path (tool.runForget group.retention host.name group.path).run trace (.done result)) :
    ∃ s : Share, s.group = group ∧ s.backup = backup ∧ result = s.report ∧
      toolCalls trace = (s.forgetCall? host tool).toList ∧ told trace = [] := by
  unfold Tool.runForget at path
  -- Whether the tool is called at all is known from the policy alone.
  cases asked : Tool.forget? group.retention host.name group.path with
  | none =>
    rw [asked] at path
    obtain ⟨rfl, rfl⟩ := Path.of_done path
    have empty : kept group.retention = [] := (forget?_eq_none_iff _ _ _).mp asked
    exact ⟨⟨group, backup, .ok ""⟩, rfl, rfl, by simp [Share.report, Share.forgotten, empty],
      by simp [Share.forgetCall?, empty], rfl⟩
  | some arguments =>
    rw [asked] at path
    have policy : kept group.retention ≠ [] := by
      rw [Ne, ← forget?_eq_none_iff, asked]
      exact Option.some_ne_none arguments
    have called (forgetting : Except Failure String) :
        (Share.forgetCall? host tool ⟨group, backup, forgetting⟩) =
          some (tool.invocation arguments, forgetting) := by
      simp [Share.forgetCall?_eq, asked]
    have report (forgetting : Except Failure String) :
        (Share.mk group backup forgetting).report = forgetting.map some := by
      simp [Share.report, Share.forgotten, policy]
    rcases Path.of_bind_ok path with
      ⟨failure, rfl, failed⟩ | ⟨output, first, second, rfl, ran, done⟩
    · obtain rfl := Action.of_ask failed
      exact ⟨⟨group, backup, .error failure⟩, rfl, rfl, (report (.error failure)).symm,
        by rw [called]; rfl, rfl⟩
    · obtain ⟨rfl, rfl⟩ := Path.of_done done
      obtain rfl := Action.of_ask ran
      exact ⟨⟨group, backup, .ok output⟩, rfl, rfl, (report (.ok output)).symm,
        by rw [called]; rfl, rfl⟩

theorem of_forgetAnnouncement {α : Type} {s : Share} {a : α} {result : Except Failure α}
    (path : Path (match s.report with
      | .ok _ => (pure a : Action α)
      | .error failure => Action.warning config.reference "FailedToRetention" "Retention"
          ("Error forgetting snapshots of " ++ s.group.path ++ ": " ++ failure.message)
            >>= fun _ => pure a).run trace (.done result)) :
    result = .ok a ∧ toolCalls trace = [] ∧ told trace = (s.forgetEvent? config).toList := by
  unfold Share.report at path
  unfold Share.forgetEvent?
  generalize s.forgotten = forgotten at path ⊢
  rcases forgotten with _ | failure | output
  · obtain ⟨rfl, rfl⟩ := Path.of_done path
    exact ⟨rfl, rfl, rfl⟩
  · obtain ⟨_, rest, rfl, ended⟩ := Action.of_tell_bind path
    obtain ⟨rfl, rfl⟩ := Path.of_done ended
    exact ⟨rfl, rfl, rfl⟩
  · obtain ⟨rfl, rfl⟩ := Path.of_done path
    exact ⟨rfl, rfl, rfl⟩

theorem of_runGroup {group : FileGroup} {result : Except Failure (Metrics × Except Failure Int)}
    (path : Path (runGroup host config tool group metrics).run trace (.done result)) :
    ∃ s : Share, ∃ metrics, s.group = group ∧ result = .ok (metrics, s.result) ∧
      toolCalls trace = s.calls host config tool ∧ told trace = s.events host config := by
  -- The clock is read around both calls, and the backup is told of before forgetting begins.
  obtain ⟨start, rest, rfl, running⟩ := Action.of_tell_bind path
  obtain ⟨backup, calling, rest, rfl, ran, timing⟩ := Action.of_attempt_bind running
  obtain rfl := Action.of_ask ran
  obtain ⟨now, rest, rfl, telling⟩ := of_elapsedSince_bind timing
  obtain ⟨rest, rfl, forgetting⟩ := of_announcement
    (fun backup => Share.backupEvent host config ⟨group, backup, backup⟩) telling
  obtain ⟨later, rest, rfl, asking⟩ := Action.of_tell_bind forgetting
  obtain ⟨forgotten, calling, rest, rfl, forgot, timing⟩ := Action.of_attempt_bind asking
  obtain ⟨end', rest, rfl, ending⟩ := of_elapsedSince_bind timing
  obtain ⟨s, rfl, rfl, rfl, called, silent⟩ := of_runForget backup forgot
  obtain ⟨rfl, quiet, said⟩ := of_forgetAnnouncement ending
  refine ⟨s, _, rfl, by rw [s.result_eq], ?_, ?_⟩
  · simp [toolCall?, called, quiet, Share.calls, Share.backupCall_eq, tagsOf_eq]
  · simp [event?, silent, said, Share.events, Share.backupEvent]

/-- The groups are taken up to the first that fails. -/
theorem of_runGroups {groups : List FileGroup} {removed : Int}
    {result : Except Failure (Metrics × Except Failure Int)}
    (path : Path (runGroups host config tool groups metrics removed).run trace (.done result)) :
    ∃ shares metrics, UntilFailure groups shares ∧
      result = .ok (metrics, outcome removed shares) ∧
      toolCalls trace = shares.flatMap (·.calls host config tool) ∧
      told trace = shares.flatMap (·.events host config) := by
  -- What the groups before have removed is added up in `removed`.
  induction groups generalizing metrics removed trace with
  | nil =>
    obtain ⟨rfl, rfl⟩ := Path.of_done path
    exact ⟨[], metrics, .nil, by simp [outcome], rfl, rfl⟩
  | cons group rest ih =>
    rcases Path.of_bind_ok path with
      ⟨failure, rfl, broken⟩ | ⟨⟨metrics, n⟩, first, second, rfl, run, going⟩
    · obtain ⟨_, _, _, impossible, _⟩ := of_runGroup broken
      cases impossible
    · obtain ⟨s, metrics, rfl, same, called, said⟩ := of_runGroup run
      obtain ⟨rfl, rfl⟩ := Prod.mk.inj (Except.ok.inj same)
      cases failed : s.failure? with
      | some failure =>
        simp only [Share.result, failed] at going
        obtain ⟨rfl, rfl⟩ := Path.of_done going
        exact ⟨[s], metrics, .failed failed, by simp [outcome, failed], by simp [called],
          by simp [said]⟩
      | none =>
        simp only [Share.result, failed] at going
        obtain ⟨shares, metrics, until', rfl, calledLater, saidLater⟩ := ih going
        refine ⟨s :: shares, metrics, .cons failed until', ?_, by simp [called, calledLater],
          by simp [said, saidLater]⟩
        simp [outcome, failed, Int.add_assoc]

end

end Backup

end ClusterBackup
