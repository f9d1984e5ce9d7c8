import ClusterBackup.Proofs.Rollout.Course
import ClusterBackup.Proofs.Rollout.Following
import ClusterBackup.Proofs.Sidecar.Repeated

/-! What a call guarantees that has something to do and succeeds, whatever is replied to it. -/

set_option autoImplicit false

namespace ClusterBackup

open Cluster Program

namespace Rollout

/-- The text with which the pods of a workload are listed. -/
inductive PodsText (w : Workload) : String → Prop where
  | all : w.selector? = none → PodsText w ""
  | selected {selector : LabelSelector} {text : String} : w.selector? = some selector →
      selector.text = .ok text → PodsText w text

/-- A poll that was put in time has found the workload rolled out, and its pods as wanted. -/
inductive Seen (r : Rollout) (w : Workload) (wanted : Bool) : List (Exchange Request) → Prop where
  | polled {restart before : List (Exchange Request)} {start : Duration} {current : Workload}
      {text : String} {pods : List Pod} :
      InTime r.interval ⟨start.nanos + r.timeout.nanos⟩ before →
      current.isRolledOut = true → PodsText w text → pods.any carries = wanted →
      Seen r w wanted (restart ++ ⟨.now, start⟩ :: (before ++
        [⟨.workload w.kind w.nameSpace w.name, .ok (some current)⟩,
          ⟨.pods w.nameSpace text, .ok pods⟩]))

variable {r : Rollout} {w updated : Workload} {errand : Errand} {wanted : Bool} {text : String}
  {trace : List (Exchange Request)} {result : Except Failure Unit}

theorem of_isSettled (path : Path (isSettled w text wanted).run trace (.done (.ok true))) :
    ∃ current pods, trace = [⟨.workload w.kind w.nameSpace w.name, .ok (some current)⟩,
        ⟨.pods w.nameSpace text, .ok pods⟩] ∧
      current.isRolledOut = true ∧ pods.any carries = wanted := by
  rw [isSettled] at path
  rcases Path.of_bind_ok path with ⟨_, impossible, _⟩ | ⟨current, first, rest, rfl, read, going⟩
  · cases impossible
  rcases of_reread read with ⟨_, _, impossible⟩ | ⟨_, impossible⟩ | ⟨_, rfl, same⟩
  · cases impossible
  · cases impossible
  cases same
  by_cases rolled : current.isRolledOut = true
  · simp only [rolled] at going
    rcases Path.of_bind_ok going with ⟨_, impossible, _⟩ | ⟨pods, listed, last, rfl, asked, ended⟩
    · cases impossible
    · obtain rfl := Action.of_ask asked
      obtain ⟨rfl, same⟩ := Path.of_done ended
      refine ⟨current, pods, rfl, rolled, ?_⟩
      simpa using (Except.ok.inj same).symm
  · simp only [rolled] at going
    obtain ⟨_, impossible⟩ := Path.of_done going
    cases impossible

theorem seen_of_await {restart : List (Exchange Request)}
    (path : Path (r.await w wanted).run trace (.done (.ok ()))) :
    Seen r w wanted (restart ++ trace) := by
  have polled {text : String} {trace : List (Exchange Request)} (selects : PodsText w text)
      (path : Path (pollUntil r.timeout r.interval
        (w.describe ++ " did not roll out within " ++ r.timeout.describe)
        (isSettled w text wanted).run) trace (.done (.ok ()))) : Seen r w wanted (restart ++ trace) := by
    obtain ⟨start, before, last, rfl, begun, settled⟩ := of_pollUntil path
    obtain ⟨current, pods, rfl, rolled, carrying⟩ := of_isSettled settled
    exact .polled begun rolled selects carrying
  rw [await] at path
  cases selects : w.selector? with
  | none =>
    rw [selects] at path
    exact polled (.all selects) path
  | some selector =>
    rw [selects] at path
    rcases Path.of_bind_ok path with ⟨_, impossible, _⟩ | ⟨text, first, rest, rfl, printed, going⟩
    · cases impossible
    · obtain ⟨rfl, text⟩ := Path.of_done printed
      exact polled (.selected selects text.symm) going

theorem seen_of_complete (path : Path (errand.complete r w).run trace (.done (.ok ()))) :
    Seen r w errand.wanted trace := by
  rcases Path.of_bind_ok path with ⟨_, impossible, _⟩ | ⟨_, restart, rest, rfl, _, awaited⟩
  · cases impossible
  · exact seen_of_await awaited

/-- An edit of the workload as it was given or read was sent and accepted. -/
inductive Written (r : Rollout) (w : Workload) (errand : Errand) :
    List (Exchange Request) → Workload → Prop where
  | sent {before : List (Exchange Request)} {object edited written : Workload} :
      object = w ∨ ⟨.workload w.kind w.nameSpace w.name, .ok (some object)⟩ ∈ before →
      (errand.edit r w).apply object = .ok edited →
      edited.podSpec?.any Sidecar.isIn = errand.wanted →
      Written r w errand (before ++ [⟨.replaceWorkload edited, .ok written⟩]) written

theorem Takes.given_or_read {n : Nat} {object : Workload} (takes : Takes w n trace object) :
    object = w ∨ ⟨.workload w.kind w.nameSpace w.name, .ok (some object)⟩ ∈ trace := by
  cases takes with
  | given => exact .inl rfl
  | read => exact .inr (List.mem_singleton_self _)

theorem written_of_patch (path : Path (errand.patch r w).run trace (.done (.ok updated))) :
    Written r w errand trace updated := by
  obtain ⟨earlier, last, n, rfl, tried⟩ := tried_of_edits (edits_of_path path)
  cases tried with
  | @sent before object edited _ takes changed =>
    obtain ⟨pod, template, rfl⟩ := Sidecar.Edit.of_apply_ok changed
    rw [← List.append_assoc]
    refine .sent (takes.given_or_read.imp_right fun read => List.mem_append_right earlier read)
      changed ?_
    rw [Sidecar.Edit.isIn_outcome template]
    cases errand <;> rfl

/-- The client replies about the workload that it was asked for. -/
def IsApt : Exchange Request → Prop
  | ⟨.workload kind nameSpace name, reply⟩ =>
    ∀ object, reply = .ok (some object) → IsAt object kind nameSpace name
  | ⟨.replaceWorkload object, reply⟩ =>
    ∀ written, reply = .ok written → IsAt written object.kind object.nameSpace object.name
  | _ => True

theorem Written.isAt (written : Written r w errand trace updated) (apt : ∀ e ∈ trace, IsApt e) :
    IsAt updated w.kind w.nameSpace w.name := by
  cases written with
  | sent taken changed isIn =>
    rw [List.forall_mem_append] at apt
    obtain ⟨pod, _, rfl⟩ := Sidecar.Edit.of_apply_ok changed
    have replied := apt.2 _ (List.mem_singleton_self _) updated rfl
    rcases taken with rfl | read
    · exact replied
    · obtain ⟨kind, nameSpace, name⟩ := apt.1 _ read _ rfl
      exact ⟨replied.1.trans kind, replied.2.1.trans nameSpace, replied.2.2.trans name⟩

/-- What a call has done that succeeds. What it polls at last is the workload of the call, as long
as the client replies about nothing else. -/
inductive Assured (r : Rollout) (w : Workload) (errand : Errand) : List (Exchange Request) → Prop where
  | done {first second third : List (Exchange Request)} {written : Workload} :
      Admitted w errand first (.ok ()) → Written r w errand second written →
      ((∀ e ∈ second, IsApt e) → IsAt written w.kind w.nameSpace w.name) →
      Seen r written errand.wanted third → Assured r w errand (first ++ (second ++ third))

/-- The secret is named and is there, if there has to be one. -/
def Secured (w : Workload) (trace : List (Exchange Request)) : Errand → Prop
  | .adding config => config.spec.backend.secretName ≠ "" ∧
      ∃ secret, ⟨.secret w.nameSpace config.spec.backend.secretName, .ok (some secret)⟩ ∈ trace
  | .removing => True

theorem Admitted.secured {first : List (Exchange Request)} (admitted : Admitted w errand first (.ok ()))
    (part : first ⊆ trace) : Secured w trace errand := by
  cases admitted with
  | found named => exact ⟨named, _, part (List.mem_singleton_self _)⟩
  | removing => trivial

theorem Worked.assured (worked : Worked r w errand trace (.ok ())) : Assured r w errand trace := by
  cases worked with
  | edited admitted patched followed =>
    have written := written_of_patch patched
    exact .done admitted written written.isAt (seen_of_complete followed)

/-- Without the secret nothing is written and nothing is deleted. -/
theorem Worked.barred_of_not_secured (worked : Worked r w errand trace result)
    (missing : ¬ Secured w trace errand) :
    (∃ failure, result = .error failure) ∧ ∀ e ∈ trace, Quiet e.request := by
  cases worked with
  | barred admitted => exact ⟨⟨_, rfl⟩, admitted.quiet⟩
  | unedited admitted => exact absurd (admitted.secured (List.subset_append_left _ _)) missing
  | edited admitted => exact absurd (admitted.secured (List.subset_append_left _ _)) missing

theorem Worked.apart_events (worked : Worked r w errand trace result) : Apart .events trace := by
  have admission {first : List (Exchange Request)} {result : Except Failure Unit}
      (admitted : Admitted w errand first result) : Apart .events first := by
    cases admitted <;> simp [Request.reach]
  have patching : Within (fun _ r => r.reach ≠ .events) (errand.patch r w).run :=
    within_patch (fun _ _ _ => nofun) (fun _ => nofun) (fun _ => nofun) r w errand
  have following (updated : Workload) : Within (fun _ r => r.reach ≠ .events)
      (errand.complete r updated).run :=
    within_complete (fun _ _ _ => nofun) (fun _ => nofun) (fun _ _ => nofun) nofun (fun _ _ => nofun)
      r errand
  cases worked with
  | barred admitted => exact admission admitted
  | unedited admitted patched =>
    exact (apart_append _ _ _).mpr ⟨admission admitted, patching.path patched⟩
  | @edited _ _ _ updated _ admitted patched followed =>
    simp only [apart_append]
    exact ⟨admission admitted, patching.path patched, (following updated).path followed⟩

/-- A call that has something to do succeeds only after an edit of the template was accepted and a
later poll, put in time, has found the workload rolled out with its pods as wanted. If the secret
is not named or is not there, nothing is written or deleted. One event tells how the call has
ended. -/
theorem Errand.run_assured (r : Rollout) (errand : Errand) (busy : ¬ errand.IsIdle w)
    (path : Path (errand.run r w).run trace (.done result)) :
    (result = .ok () → ∃ work event, trace = work ++ [event] ∧ Assured r w errand work) ∧
    (¬ Secured w trace errand →
      (∃ failure, result = .error failure) ∧ ∀ e ∈ trace, Quiet e.request) ∧
    ∃ event, told trace = [event] ∧ event.object = w.reference ∧
      (event.warning = true ↔ ∃ failure, result = .error failure) := by
  obtain ⟨work, rfl, worked⟩ := worked_of_run busy path
  refine ⟨?_, fun missing => ?_, (errand.notice w).event w.reference result, ?_, ?_, ?_⟩
  · rintro rfl
    exact ⟨work, _, rfl, worked.assured⟩
  · -- The secret is not asked for by the event at the end.
    have missing : ¬ Secured w work errand := by
      intro secured
      refine missing ?_
      cases errand with
      | adding config => exact secured.imp_right fun ⟨secret, here⟩ => ⟨secret, List.mem_append_left _ here⟩
      | removing => exact secured
    obtain ⟨failed, quiet⟩ := worked.barred_of_not_secured missing
    refine ⟨failed, fun e member => ?_⟩
    rcases List.mem_append.mp member with member | last
    · exact quiet e member
    · exact (List.mem_singleton.mp last) ▸ trivial
  · rw [told_append, worked.apart_events.told_eq_nil]
    rfl
  · cases result <;> rfl
  · cases result with
    | ok done => exact iff_of_false nofun fun ⟨_, impossible⟩ => nomatch impossible
    | error failure => exact iff_of_true rfl ⟨failure, rfl⟩

namespace Rolled

open Stuck

def ready : Workload := { carrying with status := some { ready := some 1 } }

def carrier : Pod :=
  { metadata := Metadata.named "apps" "web-x"
    spec := carrying.podSpec?
    status := some { phase := some "Running" } }

/-- The workload has rolled out when it is polled for the second time. -/
def replies {β : Type} : Request β → Nat → β × Nat
  | .secret .., n => (.ok (some keys), n)
  | .replaceWorkload object, n => (.ok object, n)
  | .deletePods .., n => (.ok (), n)
  | .workload .., 0 => (.ok (some carrying), 1)
  | .workload .., n + 1 => (.ok (some ready), n + 1)
  | .pods .., n => (.ok [carrier], n)
  | r, n => (Simulation.Store.quiet r, n)

end Rolled

open Rolled Stuck in
theorem Errand.run_assured_rolled : ∃ trace work event,
    Path (Errand.run rollout web (.adding daily)).run trace (.done (.ok ())) ∧
      trace = work ++ [event] ∧ Assured rollout web (.adding daily) work := by
  have path := follow_path replies 20 (Errand.run rollout web (.adding daily)).run 0
  have busy : ¬ (Errand.adding daily).IsIdle web := nofun
  obtain ⟨work, event, same, assured⟩ := (Errand.run_assured rollout (.adding daily) busy path).1 rfl
  exact ⟨_, work, event, path, same, assured⟩

end Rollout

end ClusterBackup
