import ClusterBackup.Proofs.Status.Attempts
import ClusterBackup.Proofs.Status.Watched

/-! Which attempt of an update is the one that counts.

An update that is written has read the object directly before, and all its earlier attempts were
refused. So what it changes is what that attempt has read. -/

set_option autoImplicit false

namespace ClusterBackup

open Program Simulation Simulation.Store

namespace Update

variable {kind : ResourceKind} (u : Update kind) (nameSpace name : String)

/-- An exchange that leaves the objects of the kind as they are. -/
def Quiet (e : Exchange Request) : Prop :=
  e.request.reach ≠ .writing kind ∨ ∃ object failure, e = ⟨u.write object, .error failure⟩

/-- An attempt that is accepted: the object is read, and then its change is written. -/
def settling (old written : Resource kind) : List (Exchange Request) :=
  [⟨.get kind nameSpace name, .ok (some old)⟩, ⟨u.write (u.apply old), .ok written⟩]

/-- What an update exchanges, or one attempt of it. -/
inductive Course (trace : List (Exchange Request))
    (result : Except Failure (Option (Resource kind)) × Bool) : Prop where
  | idle : (∀ e ∈ trace, u.Quiet e) → Course trace result
  | settled {earlier : List (Exchange Request)} {old written : Resource kind} :
      (∀ e ∈ earlier, u.Quiet e) → (u.change old).2 = true →
      trace = earlier ++ u.settling nameSpace name old written →
      result = (.ok (some written), true) → Course trace result

variable {u nameSpace name} {trace : List (Exchange Request)}
  {result : Except Failure (Option (Resource kind)) × Bool}

variable (u) in
theorem quiet_read (found : Except Failure (Option (Resource kind))) :
    u.Quiet ⟨.get kind nameSpace name, found⟩ := .inl nofun

variable (u) in
theorem quiet_refused (object : Resource kind) (failure : Failure) :
    u.Quiet ⟨u.write object, .error failure⟩ := .inr ⟨object, failure, rfl⟩

theorem Course.after {first : List (Exchange Request)} (quiet : ∀ e ∈ first, u.Quiet e)
    (course : u.Course nameSpace name trace result) :
    u.Course nameSpace name (first ++ trace) result := by
  cases course with
  | idle rest => exact .idle (List.forall_mem_append.mpr ⟨quiet, rest⟩)
  | settled rest tried same ended =>
    exact .settled (List.forall_mem_append.mpr ⟨quiet, rest⟩) tried
      (by rw [same, List.append_assoc]) ended

theorem Course.quiet_of_error {failure : Failure} {flag : Bool}
    (course : u.Course nameSpace name trace (.error failure, flag)) : ∀ e ∈ trace, u.Quiet e := by
  cases course with
  | idle quiet => exact quiet
  | settled _ _ _ ended => cases ended

theorem Tried.course {flag : Bool} (tried : u.Tried nameSpace name flag trace result) :
    u.Course nameSpace name trace result := by
  cases tried with
  | unread | gone | unchanged => exact .idle (List.forall_mem_singleton.mpr (u.quiet_read ..))
  | @refused old failure _ =>
    have refused := List.forall_mem_singleton.mpr (u.quiet_refused (u.apply old) failure)
    exact .idle (List.forall_mem_cons.mpr ⟨u.quiet_read .., refused⟩)
  | accepted changed =>
    exact .settled (fun _ member => absurd member List.not_mem_nil) changed rfl rfl

theorem course_of_rounds {n : Nat} {delay : Duration} {before : Bool}
    (rounds : Rounds u.policy u.operation (u.attempt nameSpace name) n delay before trace result) :
    u.Course nameSpace name trace result := by
  induction rounds with
  | done attempt => exact (tried_of_path attempt).course
  | failed attempt _ => exact (tried_of_path attempt).course
  | spent attempt _ _ => exact .idle (tried_of_path attempt).course.quiet_of_error
  | @again _ delay _ _ _ _ _ _ attempt _ _ _ ih =>
    have slept : u.Quiet ⟨Timed.sleep delay, ()⟩ := .inl nofun
    exact (ih.after (List.forall_mem_singleton.mpr slept)).after
      (tried_of_path attempt).course.quiet_of_error

theorem course (path : Path (u.code nameSpace name) trace (.done result)) :
    u.Course nameSpace name trace result :=
  course_of_rounds (rounds_of_path path)

end Update

namespace Watched

variable {kind : ResourceKind} {u : Update kind} {nameSpace name : String}
  {changes : List (Option (Resource kind) × Option (Resource kind))} {s t : Watched kind}
  {e : Exchange Request} {trace : List (Exchange Request)}

theorem Records.kept_of_quiet (records : Records nameSpace name s e t) (kept : Kept changes s)
    (quiet : u.Quiet e) : Kept changes t := by
  rcases quiet with other | ⟨object, failure, rfl⟩
  · exact records.kept kept other
  · exact records.refused kept

theorem Kept.along_quiet (kept : Kept changes s) (along : Along (terms kind nameSpace name) trace s t)
    (quiet : ∀ e ∈ trace, u.Quiet e) : Kept changes t :=
  kept.along_of along fun e member _ _ records kept => records.kept_of_quiet kept (quiet e member)

theorem Kept.along_settling (regular : u.Regular) {old written : Resource kind}
    (kept : Kept changes s)
    (along : Along (terms kind nameSpace name) (u.settling nameSpace name old written) s t) :
    written = (u.apply old).stamped written.metadata.resourceVersion ∧
      Kept (changes ++ [(some old, some written)]) t := by
  obtain ⟨s₁, s₂, others, ⟨read, _⟩, s₃, s₄, meanwhile, ⟨wrote, _⟩, rest⟩ := along
  have before := read.kept (Kept.stable _ _ _ others kept) nofun
  have stored : s₂.object nameSpace name = some old := read.read
  have here := Kept.stable _ _ _ meanwhile before
  have seen := Seen.stable old _ _ meanwhile (.of_object before.numbered stored)
  rcases wrote.write regular here seen (find?_key stored) with
    ⟨failure, impossible, _⟩ | ⟨accepted, same, content, changed⟩
  · cases impossible
  · cases same
    exact ⟨content, Kept.stable _ _ _ rest changed⟩

end Watched

end ClusterBackup
