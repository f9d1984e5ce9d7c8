import ClusterBackup.Proofs.Program.Footprint
import ClusterBackup.Proofs.Program.Contract
import ClusterBackup.Proofs.Retry.Rounds
import ClusterBackup.Proofs.Status.Update

/-! What the exchanges of one update tell about its result.

Replies are of any kind. Whatever is written is the change of an object that was read before. -/

set_option autoImplicit false

namespace ClusterBackup.Update

open Program

variable {kind : ResourceKind} (u : Update kind) (nameSpace name : String)

@[simp] theorem reach_write (object : Resource kind) : (u.write object).reach = .writing kind := by
  unfold write
  split <;> rfl

/-- One attempt of an update; the flag is what an earlier one has left. -/
def attempt (_ : Nat) (flag : Bool) :
    Program Request (Except Failure (Option (Resource kind)) × Bool) := do
  match ← ask (.get kind nameSpace name) with
  | .error failure => return (.error failure, flag)
  | .ok none => return (.ok none, flag)
  | .ok (some object) =>
    match u.change object with
    | (changed, false) => return (.ok (some changed), false)
    | (changed, true) => match ← ask (u.write changed) with
      | .error failure => return (.error failure, true)
      | .ok written => return (.ok (some written), true)

/-- What an attempt exchanges, and how it ends. -/
inductive Tried (flag : Bool) : List (Exchange Request) →
    Except Failure (Option (Resource kind)) × Bool → Prop where
  | unread {failure : Failure} :
      Tried flag [⟨.get kind nameSpace name, .error failure⟩] (.error failure, flag)
  | gone : Tried flag [⟨.get kind nameSpace name, .ok none⟩] (.ok none, flag)
  | unchanged {old : Resource kind} : (u.change old).2 = false →
      Tried flag [⟨.get kind nameSpace name, .ok (some old)⟩] (.ok (some (u.apply old)), false)
  | refused {old : Resource kind} {failure : Failure} : (u.change old).2 = true →
      Tried flag [⟨.get kind nameSpace name, .ok (some old)⟩, ⟨u.write (u.apply old), .error failure⟩]
        (.error failure, true)
  | accepted {old written : Resource kind} : (u.change old).2 = true →
      Tried flag [⟨.get kind nameSpace name, .ok (some old)⟩, ⟨u.write (u.apply old), .ok written⟩]
        (.ok (some written), true)

variable (kind) in
def Gone (trace : List (Exchange Request)) : Prop :=
  ⟨.get kind nameSpace name, .ok none⟩ ∈ trace

def Accepted (trace : List (Exchange Request)) : Prop :=
  ∃ object written, ⟨u.write object, .ok written⟩ ∈ trace

def Refused (trace : List (Exchange Request)) : Prop :=
  ∃ object failure, ⟨u.write object, .error failure⟩ ∈ trace

/-- Every write is the change of something that was read. -/
def Carried (trace : List (Exchange Request)) : Prop :=
  ∀ object reply, ⟨u.write object, reply⟩ ∈ trace →
    ∃ old, ⟨.get kind nameSpace name, .ok (some old)⟩ ∈ trace ∧ u.change old = (object, true)

/-- What an update has exchanged until it has ended with a result. -/
structure Account (r : Except Failure (Option (Resource kind)) × Bool)
    (trace : List (Exchange Request)) : Prop where
  carried : u.Carried nameSpace name trace
  gone : Gone kind nameSpace name trace ↔ r.1 = .ok none
  accepted : u.Accepted trace ↔ (∃ object, r.1 = .ok (some object)) ∧ r.2 = true
  refused : (∀ object, r.1 ≠ .ok (some object)) → (u.Refused trace ↔ r.2 = true)

/-- What an update has exchanged while it goes on. -/
structure Pending (flag : Bool) (trace : List (Exchange Request)) : Prop where
  carried : u.Carried nameSpace name trace
  present : ¬ Gone kind nameSpace name trace
  unwritten : ¬ u.Accepted trace
  refused : u.Refused trace ↔ flag = true

variable {u nameSpace name} {flag : Bool} {trace : List (Exchange Request)}

theorem tried_of_path {n : Nat} {result : Except Failure (Option (Resource kind)) × Bool}
    (path : Path (u.attempt nameSpace name n flag) trace (.done result)) :
    u.Tried nameSpace name flag trace result := by
  obtain ⟨found, first, rest, rfl, read, going⟩ := Path.of_bind path
  obtain rfl := Path.of_ask read
  rcases found with failure | _ | old
  · obtain ⟨rfl, rfl⟩ := Path.of_done going
    exact .unread
  · obtain ⟨rfl, rfl⟩ := Path.of_done going
    exact .gone
  · rcases changed : u.change old with ⟨new, _ | _⟩
    all_goals
      obtain rfl : u.apply old = new := congrArg Prod.fst changed
      have flagged := congrArg Prod.snd changed
      simp only [changed] at going
    · obtain ⟨rfl, rfl⟩ := Path.of_done going
      exact .unchanged flagged
    · obtain ⟨reply, second, last, rfl, wrote, ended⟩ := Path.of_bind going
      obtain rfl := Path.of_ask wrote
      cases reply with
      | error failure =>
        obtain ⟨rfl, rfl⟩ := Path.of_done ended
        exact .refused flagged
      | ok written =>
        obtain ⟨rfl, rfl⟩ := Path.of_done ended
        exact .accepted flagged

variable (u nameSpace name) in
theorem code_eq : u.code nameSpace name =
    retryConflicts u.policy u.operation false (u.attempt nameSpace name) := by
  unfold code readChangeWrite
  congr 1
  funext _ flag
  refine congrArg (Program.bind _) (funext fun found => ?_)
  rcases found with failure | _ | object
  · rfl
  · rfl
  · rcases changed : u.change object with ⟨new, _ | _⟩
    · simp only [changed]
    · simp only [changed]
      exact congrArg (Program.bind _) (funext fun reply => by cases reply <;> rfl)

theorem rounds_of_path {result : Except Failure (Option (Resource kind)) × Bool}
    (path : Path (u.code nameSpace name) trace (.done result)) :
    Rounds u.policy u.operation (u.attempt nameSpace name) 1 u.policy.initial false trace result :=
  Rounds.of_path (u.code_eq nameSpace name ▸ path)

theorem write_inj {first second : Resource kind} {reply other : Except Failure (Resource kind)}
    (same : (⟨u.write first, reply⟩ : Exchange Request) = ⟨u.write second, other⟩) :
    first = second ∧ reply = other := by
  unfold write at same
  split at same <;> cases same <;> exact ⟨rfl, rfl⟩

theorem mem_concat_of_reach {e f : Exchange Request} (other : f.request.reach ≠ e.request.reach) :
    f ∈ trace ++ [e] ↔ f ∈ trace := by
  rw [List.mem_append, List.mem_singleton]
  exact or_iff_left fun same => other (congrArg (·.request.reach) same)

theorem write_mem_concat {object other : Resource kind}
    {reply answer : Except Failure (Resource kind)} :
    ⟨u.write object, reply⟩ ∈ trace ++ [⟨u.write other, answer⟩] ↔
      ⟨u.write object, reply⟩ ∈ trace ∨ object = other ∧ reply = answer := by
  rw [List.mem_append, List.mem_singleton]
  refine or_congr_right ⟨write_inj, ?_⟩
  rintro ⟨rfl, rfl⟩
  rfl

theorem Carried.quiet {e : Exchange Request} (carried : u.Carried nameSpace name trace)
    (quiet : e.request.reach ≠ .writing kind) : u.Carried nameSpace name (trace ++ [e]) := by
  intro object reply member
  rw [mem_concat_of_reach (by simpa using quiet.symm)] at member
  obtain ⟨old, read, changed⟩ := carried object reply member
  exact ⟨old, List.mem_append_left _ read, changed⟩

theorem Carried.write {object old : Resource kind} {reply : Except Failure (Resource kind)}
    (carried : u.Carried nameSpace name trace)
    (read : ⟨.get kind nameSpace name, .ok (some old)⟩ ∈ trace)
    (changed : u.change old = (object, true)) :
    u.Carried nameSpace name (trace ++ [⟨u.write object, reply⟩]) := by
  intro other answer member
  rcases write_mem_concat.mp member with member | ⟨rfl, rfl⟩
  · obtain ⟨old, read, changed⟩ := carried other answer member
    exact ⟨old, List.mem_append_left _ read, changed⟩
  · exact ⟨old, List.mem_append_left _ read, changed⟩

namespace Pending

variable (pending : u.Pending nameSpace name flag trace)

include pending

theorem failed (failure : Failure) : u.Account nameSpace name (.error failure, flag) trace where
  carried := pending.carried
  gone := iff_of_false pending.present nofun
  accepted := iff_of_false pending.unwritten (by simp)
  refused _ := pending.refused

theorem idle (object : Resource kind) :
    u.Account nameSpace name (.ok (some object), false) trace where
  carried := pending.carried
  gone := iff_of_false pending.present (by simp)
  accepted := iff_of_false pending.unwritten fun both => Bool.false_ne_true both.2
  refused other := (other object rfl).elim

theorem quiet {e : Exchange Request} (quiet : e.request.reach ≠ .writing kind)
    (other : (⟨.get kind nameSpace name, .ok none⟩ : Exchange Request) ≠ e) :
    u.Pending nameSpace name flag (trace ++ [e]) := by
  have written (object : Resource kind) (reply : Except Failure (Resource kind)) :
      ⟨u.write object, reply⟩ ∈ trace ++ [e] ↔ ⟨u.write object, reply⟩ ∈ trace :=
    mem_concat_of_reach (by simpa using quiet.symm)
  refine ⟨pending.carried.quiet quiet, ?_, ?_, ?_⟩
  · simpa [Gone, other] using pending.present
  · simpa [Accepted, written] using pending.unwritten
  · simpa [Refused, written] using pending.refused

theorem gone : u.Account nameSpace name (.ok none, flag)
    (trace ++ [⟨.get kind nameSpace name, .ok none⟩]) := by
  have written (object : Resource kind) (reply : Except Failure (Resource kind)) :
      ⟨u.write object, reply⟩ ∈ trace ++ [⟨.get kind nameSpace name, .ok none⟩] ↔
        ⟨u.write object, reply⟩ ∈ trace :=
    mem_concat_of_reach (by simp)
  refine ⟨pending.carried.quiet nofun, iff_of_true (by simp [Gone]) rfl, iff_of_false ?_ (by simp),
    fun _ => ?_⟩
  · simpa [Accepted, written] using pending.unwritten
  · simpa [Refused, written] using pending.refused

theorem present_write (object : Resource kind) (reply : Except Failure (Resource kind)) :
    ¬ Gone kind nameSpace name (trace ++ [⟨u.write object, reply⟩]) := by
  rw [Gone, mem_concat_of_reach (by simp)]
  exact pending.present

variable {object old : Resource kind}
  (read : ⟨.get kind nameSpace name, .ok (some old)⟩ ∈ trace)
  (changed : u.change old = (object, true))

include read changed

theorem refuse (failure : Failure) :
    u.Pending nameSpace name true (trace ++ [⟨u.write object, .error failure⟩]) := by
  refine ⟨pending.carried.write read changed, pending.present_write _ _, ?_,
    iff_of_true ⟨object, failure, by simp⟩ rfl⟩
  rintro ⟨other, written, member⟩
  rcases write_mem_concat.mp member with member | ⟨_, impossible⟩
  · exact pending.unwritten ⟨other, written, member⟩
  · cases impossible

theorem accept (written : Resource kind) :
    u.Account nameSpace name (.ok (some written), true)
      (trace ++ [⟨u.write object, .ok written⟩]) :=
  ⟨pending.carried.write read changed,
    iff_of_false (pending.present_write _ _) (by simp),
    iff_of_true ⟨object, written, by simp⟩ ⟨⟨written, rfl⟩, rfl⟩,
    fun other => (other written rfl).elim⟩

end Pending

/-- The exchanges of an update account for its result. -/
theorem account {r : Except Failure (Option (Resource kind)) × Bool}
    (path : Path (u.code nameSpace name) trace (.done r)) : u.Account nameSpace name r trace := by
  suffices ensures : Ensures (transcript Request) (u.code nameSpace name)
      (fun r trace => u.Account nameSpace name r trace) [] from ensures.of_path path
  -- Between two tries the flag is raised exactly if a write was refused.
  refine ensures_readChangeWrite (u.Pending nameSpace name)
    (fun flag object trace => u.Pending nameSpace name flag trace ∧
      ⟨.get kind nameSpace name, .ok (some object)⟩ ∈ trace)
    (fun _ => stable_transcript _) (fun _ => stable_transcript _) ?reads
    (fun _ _ _ holding _ => holding.1.idle _) ?writes (fun _ failure _ pending =>
      pending.failed failure) ?sleeps ?first
  case reads =>
    rintro flag trace pending
    refine Ensures.ask ?_
    rintro _ rfl reply _ rfl
    refine ⟨trivial, ?_⟩
    rintro _ rfl
    rcases reply with failure | _ | object
    · exact pending.quiet nofun nofun
    · exact pending.gone
    · exact ⟨pending.quiet nofun nofun, by simp⟩
  case writes =>
    rintro flag object trace ⟨pending, read⟩ tried
    have changed : u.change object = ((u.change object).1, true) := Prod.ext rfl tried
    refine Ensures.ask ?_
    rintro _ rfl reply _ rfl
    refine ⟨trivial, ?_⟩
    rintro _ rfl
    rcases reply with failure | written
    · exact pending.refuse read changed failure
    · exact pending.accept read changed written
  case sleeps =>
    rintro d flag trace reply _ pending rfl
    exact ⟨trivial, pending.quiet nofun fun same =>
      absurd (congrArg (·.request.reach) same) nofun⟩
  case first =>
    exact ⟨fun _ _ member => absurd member List.not_mem_nil, List.not_mem_nil,
      fun ⟨_, _, member⟩ => absurd member List.not_mem_nil,
      iff_of_false (fun ⟨_, _, member⟩ => absurd member List.not_mem_nil) nofun⟩

end ClusterBackup.Update

/-! ### Updates that fail -/

namespace ClusterBackup.Update

open Program

variable {kind : ResourceKind} (u : Update kind) (nameSpace name : String)

def Broken (e : Exchange Request) : Prop :=
  (∃ failure, e = ⟨.get kind nameSpace name, .error failure⟩) ∨
    ∃ object failure, e = ⟨u.write object, .error failure⟩

variable {u nameSpace name} {flag : Bool} {trace : List (Exchange Request)}

theorem Broken.refused {e : Exchange Request} (broken : u.Broken nameSpace name e) :
    Simulation.Store.isAccepted e = false := by
  rcases broken with ⟨failure, rfl⟩ | ⟨object, failure, rfl⟩
  · rfl
  · exact u.isAccepted_write object (.error failure)

theorem broken_of_error {failure : Failure} {after : Bool}
    (path : Path (u.code nameSpace name) trace (.done (.error failure, after))) :
    ∃ earlier e, trace = earlier ++ [e] ∧ u.Broken nameSpace name e := by
  refine (rounds_of_path path).of_error fun _ _ _ _ _ attempt => ?_
  cases tried_of_path attempt with
  | unread => exact ⟨[], _, rfl, .inl ⟨_, rfl⟩⟩
  | refused => exact ⟨[_], _, rfl, .inr ⟨_, _, rfl⟩⟩

end ClusterBackup.Update
