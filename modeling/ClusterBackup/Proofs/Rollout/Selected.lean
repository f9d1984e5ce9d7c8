import ClusterBackup.Proofs.Rollout.Course
import ClusterBackup.Proofs.Selector.Text
import ClusterBackup.Proofs.Store.Answers
import Mathlib.Data.List.Permutation

/-! Which pods are listed and deleted for a workload.

After the edit all requests about pods carry the text of the workload's selector. A cluster reads it as
a query, so they are about the pods that the selector picks. -/

set_option autoImplicit false

namespace ClusterBackup.Rollout

open Cluster Program

/-- What is asked about pods is about those that a selector picks in the namespace of a workload. -/
def AboutPicked (w : Workload) (selector : LabelSelector) : ⦃β : Type⦄ → Request β → Prop
  | _, .pods nameSpace text | _, .deletePods nameSpace text =>
    nameSpace = w.nameSpace ∧
      ∀ labels, Query.Selects text labels ↔ selector.picks labels = .ok true
  | _, _ => True

variable {w : Workload} {selector : LabelSelector}

theorem selects_iff_of_named (legal : selector.IsLegal) (selects : w.selector? = some selector)
    {text : String} (named : Names w text) (labels : Dictionary) :
    Query.Selects text labels ↔ selector.picks labels = .ok true := by
  obtain ⟨printed, terms, done, read, asks⟩ := legal.read_back
  cases done.symm.trans (named selector selects)
  rw [← asks]
  refine ⟨fun ⟨others, same, all⟩ => ?_, fun all => ⟨terms, read, all⟩⟩
  cases read.symm.trans same
  exact all

theorem within_aboutPicked (legal : selector.IsLegal) (selects : w.selector? = some selector)
    (r : Rollout) (errand : Errand) :
    Within (AboutPicked w selector) (errand.complete r w).run :=
  within_complete (fun _ _ _ => trivial) (fun _ => trivial)
    (fun _ named => ⟨rfl, selects_iff_of_named legal selects named⟩) trivial
    (fun _ named => ⟨rfl, selects_iff_of_named legal selects named⟩) r errand

/-- A query that is printed of a selector selects what the selector picks, and what is asked about the
pods of a workload is about the pods that its selector picks. They are deleted once, before anything
else, unless the workload replaces them itself. -/
theorem asks_about_picked (legal : selector.IsLegal) :
    (∃ text terms, selector.text = .ok text ∧ Query.terms? text = some terms ∧
      ∀ labels, (∀ term ∈ terms, term.Asks labels) ↔ selector.picks labels = .ok true) ∧
    (∀ (r : Rollout) (w : Workload) (errand : Errand) (trace : List (Exchange Request))
      (rest : Program Request (Except Failure Unit)), w.selector? = some selector →
      Path (errand.complete r w).run trace rest → ∀ e ∈ trace, AboutPicked w selector e.request) ∧
    ∀ (r : Rollout) (w : Workload) (errand : Errand) (trace : List (Exchange Request)),
      w.selector? = some selector → Path (errand.complete r w).run trace (.done (.ok ())) →
      ∃ text, selector.text = .ok text ∧ ∃ rest,
        trace = (if w.kind.rollsOnTemplateChange then [] else
          [⟨.deletePods w.nameSpace text, .ok ()⟩]) ++ rest ∧ ∀ e ∈ rest, ¬ Deletes e.request := by
  refine ⟨legal.read_back,
    fun r _ errand _ _ selects path => (within_aboutPicked legal selects r errand).path path, ?_⟩
  intro r w errand trace selects path
  obtain ⟨restart, rest, rfl, restarted, quiet⟩ := restart_of_complete path
  obtain ⟨rfl, idle⟩ | ⟨other, text, keeps, same, printed, rfl⟩ := of_restartPods restarted
  · obtain ⟨text, _, printed, _⟩ := legal.read_back
    have rolls : w.kind.rollsOnTemplateChange = true := by simpa [selects] using idle
    exact ⟨text, printed, rest, by rw [if_pos rolls], quiet⟩
  · cases same.symm.trans selects
    exact ⟨text, printed, rest, by rw [keeps]; rfl, quiet⟩

/-- Operators are keys here, and the empty value is listed. -/
def picky : LabelSelector :=
  { labels := some (.ofList [("in", ""), ("app", "db")])
    requirements := some [
      { key := "env", operator := "In", values := some ["stage", "", "prod"] },
      { key := "notin", operator := "NotIn", values := some ["notin"] },
      { key := "example.com/team", operator := "Exists" },
      { key := "legacy", operator := "DoesNotExist" }] }

def pickyLabels : Dictionary :=
  .ofList [("app", "db"), ("env", ""), ("example.com/team", "a"), ("in", "")]

theorem legal_picky : picky.IsLegal := by
  refine ⟨by decide, ?_⟩
  change ∀ r ∈ [_, _, _, _], Requirement.IsLegal r
  simp only [List.forall_mem_cons]
  exact ⟨⟨by decide, .oneOf, rfl, fun _ => ⟨by decide, by decide⟩⟩,
    ⟨by decide, .noneOf, rfl, fun _ => ⟨by decide, by decide⟩⟩,
    ⟨by decide, .present, rfl, nofun⟩, ⟨by decide, .absent, rfl, nofun⟩, nofun⟩

def selective : Workload :=
  { kind := .replicaSet, metadata := {}, spec := some { selector := some picky } }

/-- It has rolled out when it is read, without pods. -/
def rolledOut {β : Type} : Request β → Unit → β × Unit
  | .workload .., s => (.ok (some { selective with status := some { ready := some 1 } }), s)
  | r, s => (Simulation.Store.quiet r, s)

def restarted : List (Exchange Request) :=
  (follow rolledOut 9 (Errand.removing.complete ⟨⟨{}, .conflict⟩, .ofSeconds 300, .ofSeconds 2⟩
    selective).run ()).1

theorem asks_about_picked_selective :
    picky.IsLegal ∧ selective.selector? = some picky ∧
      picky.text = .ok
        "app=db,in=,env in (,prod,stage),notin notin (notin),example.com/team,!legacy" ∧
      picky.picks pickyLabels = .ok true ∧
      (∃ text terms, picky.text = .ok text ∧ Query.terms? text = some terms ∧
        ∀ labels, (∀ term ∈ terms, term.Asks labels) ↔ picky.picks labels = .ok true) ∧
      (∀ (r : Rollout) (trace : List (Exchange Request))
        (rest : Program Request (Except Failure Unit)),
        Path (Errand.removing.complete r selective).run trace rest →
        ∀ e ∈ trace, AboutPicked selective picky e.request) ∧
      (∃ text rest, picky.text = .ok text ∧ restarted = ⟨.deletePods "" text, .ok ()⟩ :: rest ∧
        ∀ e ∈ rest, ¬ Deletes e.request) ∧
      ∃ text, ⟨.pods "" text, .ok []⟩ ∈ restarted ∧
        ∀ labels, Query.Selects text labels ↔ picky.picks labels = .ok true := by
  obtain ⟨reads, asks, deletes⟩ := asks_about_picked legal_picky
  refine ⟨legal_picky, rfl, by cbv, by decide, reads,
    fun r trace rest => asks r selective .removing trace rest rfl, ?deleted, ?listed⟩
  case deleted =>
    obtain ⟨text, printed, rest, same, quiet⟩ :=
      deletes _ selective .removing restarted rfl (follow_path rolledOut 9 _ ())
    exact ⟨text, rest, printed, same, quiet⟩
  case listed =>
    have member : ⟨.pods "" _, .ok []⟩ ∈ restarted := List.mem_of_getElem? (i := 3) rfl
    exact ⟨_, member, (asks _ selective .removing _ _ rfl (follow_path rolledOut 9 _ ()) _ member).2⟩

end ClusterBackup.Rollout
