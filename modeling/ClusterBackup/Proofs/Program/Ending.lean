import ClusterBackup.Proofs.Program.Path
import ClusterBackup.Request

/-! Paths of programs to their end, taken apart where the programs are put together.

A program that has come to its end has done so part by part, and its exchanges are those of
the parts in order. A failure ends the parts that come after it. -/

set_option autoImplicit false

namespace ClusterBackup.Program

variable {ρ : Type → Type} {α β : Type} {trace first second : List (Exchange ρ)}

theorem Path.of_done {a b : α} (path : Path (.done a : Program ρ α) trace (.done b)) :
    trace = [] ∧ b = a := by
  cases path
  exact ⟨rfl, rfl⟩

theorem Path.of_ask {r : ρ β} {b : β} (path : Path (ask r) trace (.done b)) :
    trace = [⟨r, b⟩] := by
  cases path with
  | request ended =>
    obtain ⟨rfl, rfl⟩ := Path.of_done ended
    rfl

theorem Path.bind {p : Program ρ α} {f : α → Program ρ β} {a : α} {q : Program ρ β}
    (left : Path p first (.done a)) (right : Path (f a) second q) :
    Path (p.bind f) (first ++ second) q := by
  generalize ended : (Program.done a : Program ρ α) = last at left
  induction left with
  | here p =>
    subst ended
    exact right
  | request _ ih => exact .request (ih ended)
  | loop _ ih =>
    have path := ih ended
    rw [unroll_bind] at path
    exact .loop path

theorem Path.bind_left {p q : Program ρ α} (path : Path p trace q) (f : α → Program ρ β) :
    Path (p.bind f) trace (q.bind f) := by
  induction path with
  | here p => exact .here _
  | request _ ih => exact .request ih
  | loop _ ih =>
    rw [unroll_bind] at ih
    exact .loop ih

theorem Path.bind_cases {p : Program ρ α} {f : α → Program ρ β} {q : Program ρ β}
    (path : Path (p.bind f) trace q) :
    (∃ rest, Path p trace rest ∧ q = rest.bind f) ∨
      ∃ a first second, trace = first ++ second ∧ Path p first (.done a) ∧ Path (f a) second q := by
  generalize whole : p.bind f = code at path
  -- A program that is done hands on to the second part; another one goes on as the whole does.
  induction path generalizing p with
  | here code => exact .inl ⟨p, .here p, whole.symm⟩
  | request path ih =>
    cases p with
    | done a => exact .inr ⟨a, [], _, rfl, .here _, by rw [show f a = _ from whole]; exact .request path⟩
    | request r next =>
      cases whole
      obtain ⟨rest, path, same⟩ | ⟨a, first, second, rfl, left, right⟩ := ih rfl
      · exact .inl ⟨rest, .request path, same⟩
      · exact .inr ⟨a, _ :: first, second, rfl, .request left, right⟩
    | loop body start next => cases whole
  | loop path ih =>
    cases p with
    | done a => exact .inr ⟨a, [], _, rfl, .here _, by rw [show f a = _ from whole]; exact .loop path⟩
    | request r next => cases whole
    | loop body start next =>
      cases whole
      obtain ⟨rest, path, same⟩ | ⟨a, first, second, rfl, left, right⟩ := ih (unroll_bind _ _ next f)
      · exact .inl ⟨rest, .loop path, same⟩
      · exact .inr ⟨a, first, second, rfl, .loop left, right⟩

theorem Path.of_bind {p : Program ρ α} {f : α → Program ρ β} {b : β}
    (path : Path (p.bind f) trace (.done b)) :
    ∃ a first second, trace = first ++ second ∧ Path p first (.done a) ∧
      Path (f a) second (.done b) := by
  obtain ⟨rest, path, same⟩ | parts := path.bind_cases
  · cases rest with
    | done a => exact ⟨a, trace, [], (List.append_nil _).symm, path, by rw [same]; exact .here _⟩
    | request r next => cases same
    | loop body start next => cases same
  · exact parts

/-- The replies determine the path of a program to its end. -/
theorem Path.unique {p : Program ρ α} {a b : α} {first second left right : List (Exchange ρ)}
    (path : Path p first (.done a)) (other : Path p left (.done b))
    (same : first ++ second = left ++ right) : first = left ∧ second = right ∧ a = b := by
  generalize ended : (Program.done a : Program ρ α) = last at path
  induction path generalizing left with
  | here p =>
    subst ended
    obtain ⟨rfl, rfl⟩ := Path.of_done other
    exact ⟨rfl, same, rfl⟩
  | request _ ih =>
    cases other with
    | request other =>
      obtain ⟨exchange, rest⟩ := List.cons.inj same
      cases exchange
      obtain ⟨rfl, rfl, rfl⟩ := ih other rest ended
      exact ⟨rfl, rfl, rfl⟩
  | loop _ ih =>
    cases other with
    | loop other => exact ih other same ended

section

variable {ε : Type} {x : ExceptT ε (Program ρ) α} {f : α → ExceptT ε (Program ρ) β}
  {result : Except ε β}

theorem Path.bind_ok {a : α} (left : Path x.run first (.done (.ok a)))
    (right : Path (f a).run second (.done result)) :
    Path (x >>= f).run (first ++ second) (.done result) :=
  Path.bind left right

theorem Path.bind_error {failure : ε} (failed : Path x.run trace (.done (.error failure))) :
    Path (x >>= f).run trace (.done (.error failure)) := by
  have path : Path (x >>= f).run (trace ++ []) (.done (.error failure)) :=
    Path.bind failed (.here _)
  rwa [List.append_nil] at path

theorem Path.of_bind_ok (path : Path (x >>= f).run trace (.done result)) :
    (∃ failure, result = .error failure ∧ Path x.run trace (.done (.error failure))) ∨
      ∃ a first second, trace = first ++ second ∧ Path x.run first (.done (.ok a)) ∧
        Path (f a).run second (.done result) := by
  obtain ⟨early | a, first, second, rfl, left, right⟩ := Path.of_bind path
  · obtain ⟨rfl, rfl⟩ := Path.of_done right
    exact .inl ⟨early, rfl, by rwa [List.append_nil]⟩
  · exact .inr ⟨a, first, second, rfl, left, right⟩

end

end ClusterBackup.Program

namespace ClusterBackup.Action

open Program

variable {α β : Type} {trace first second : List (Exchange Request)} {result : Except Failure β}

theorem of_ask {r : Request (Except Failure β)} (path : Path (ask r).run trace (.done result)) :
    trace = [⟨r, result⟩] :=
  Path.of_ask path

theorem of_attempt {a : Action α} {result : Except Failure (Except Failure α)}
    (path : Path (attempt a).run trace (.done result)) :
    ∃ inner, result = .ok inner ∧ Path a.run trace (.done inner) := by
  obtain ⟨inner, first, second, rfl, left, right⟩ := Path.of_bind path
  obtain ⟨rfl, rfl⟩ := Path.of_done right
  exact ⟨inner, rfl, by rwa [List.append_nil]⟩

theorem of_tell {r : Request β} (path : Path (tell r).run trace (.done result)) :
    ∃ reply, result = .ok reply ∧ trace = [⟨r, reply⟩] := by
  obtain ⟨reply, first, second, rfl, left, right⟩ := Path.of_bind path
  obtain ⟨rfl, rfl⟩ := Path.of_done right
  exact ⟨reply, rfl, by rw [Path.of_ask left, List.append_nil]⟩

theorem of_tell_bind {r : Request α} {f : α → Action β}
    (path : Path (tell r >>= f).run trace (.done result)) :
    ∃ reply rest, trace = ⟨r, reply⟩ :: rest ∧ Path (f reply).run rest (.done result) := by
  rcases Path.of_bind_ok path with ⟨failure, rfl, ended⟩ | ⟨a, first, second, rfl, left, right⟩
  · obtain ⟨reply, impossible, _⟩ := of_tell ended
    cases impossible
  · obtain ⟨reply, same, rfl⟩ := of_tell left
    cases same
    exact ⟨a, second, rfl, right⟩

theorem of_attempt_bind {a : Action α} {f : Except Failure α → Action β}
    (path : Path (attempt a >>= f).run trace (.done result)) :
    ∃ inner first second, trace = first ++ second ∧ Path a.run first (.done inner) ∧
      Path (f inner).run second (.done result) := by
  rcases Path.of_bind_ok path with ⟨failure, rfl, ended⟩ | ⟨a, first, second, rfl, left, right⟩
  · obtain ⟨inner, impossible, _⟩ := of_attempt ended
    cases impossible
  · obtain ⟨inner, same, path⟩ := of_attempt left
    cases same
    exact ⟨a, first, second, rfl, path, right⟩

section

variable {f : α → Action β}

theorem of_lift_bind {p : Program Request α}
    (path : Path (ExceptT.lift p >>= f).run trace (.done result)) :
    ∃ a first second, trace = first ++ second ∧ Path p first (.done a) ∧
      Path (f a).run second (.done result) := by
  rcases Path.of_bind_ok path with ⟨failure, rfl, ended⟩ | ⟨a, first, second, rfl, left, right⟩
  · obtain ⟨_, _, _, _, _, ended⟩ := Path.of_bind ended
    cases (Path.of_done ended).2
  · obtain ⟨b, first, last, rfl, left, ended⟩ := Path.of_bind left
    obtain ⟨rfl, same⟩ := Path.of_done ended
    cases same
    exact ⟨a, first, second, by rw [List.append_nil], left, right⟩

theorem of_found_bind {missing : Failure} {object : Option α}
    (path : Path (found missing object >>= f).run trace (.done result)) :
    trace = [] ∨ ∃ a, Path (f a).run trace (.done result) := by
  cases object with
  | none => exact .inl (Path.of_done path).1
  | some a => exact .inr ⟨a, path⟩

theorem of_ofExcept_bind {outcome : Except Failure α}
    (path : Path (ofExcept outcome >>= f).run trace (.done result)) :
    trace = [] ∨ ∃ a, Path (f a).run trace (.done result) := by
  cases outcome with
  | error failure => exact .inl (Path.of_done path).1
  | ok a => exact .inr ⟨a, path⟩

theorem of_lookup_bind {r : Request (Except Failure (Option α))} {missing : Failure}
    (path : Path (do f (← found missing (← ask r)) : Action β).run trace (.done result)) :
    (∃ reply, trace = [⟨r, reply⟩] ∧ ∀ object, reply ≠ .ok (some object)) ∨
      ∃ object rest, trace = ⟨r, .ok (some object)⟩ :: rest ∧
        Path (f object).run rest (.done result) := by
  rcases Path.of_bind_ok path with ⟨failure, rfl, asked⟩ | ⟨object, first, rest, rfl, asked, going⟩
  · exact .inl ⟨_, of_ask asked, nofun⟩
  obtain rfl := of_ask asked
  cases object with
  | none =>
    obtain ⟨rfl, rfl⟩ := Path.of_done going
    exact .inl ⟨_, rfl, nofun⟩
  | some object => exact .inr ⟨object, rest, rfl, going⟩

end

theorem of_forM {ι : Type} {steps : List ι} {f : ι → Action PUnit}
    (path : Path (steps.forM f).run trace (.done (.ok ⟨⟩))) :
    (∀ i ∈ steps, ∃ part ⊆ trace, Path (f i).run part (.done (.ok ⟨⟩))) ∧
      ∀ e ∈ trace, ∃ i ∈ steps, ∃ part, e ∈ part ∧ Path (f i).run part (.done (.ok ⟨⟩)) := by
  induction steps generalizing trace with
  | nil =>
    obtain ⟨rfl, _⟩ := Path.of_done path
    exact ⟨fun _ member => absurd member List.not_mem_nil,
      fun _ member => absurd member List.not_mem_nil⟩
  | cons i rest ih =>
    rcases Path.of_bind_ok path with ⟨_, impossible, _⟩ | ⟨_, part, later, rfl, taken, going⟩
    · cases impossible
    · obtain ⟨each, all⟩ := ih going
      refine ⟨fun j member => ?_, fun e member => ?_⟩
      · rcases List.mem_cons.mp member with rfl | member
        · exact ⟨part, List.subset_append_left _ _, taken⟩
        · obtain ⟨other, within, path⟩ := each j member
          exact ⟨other, fun e here => List.mem_append_right _ (within here), path⟩
      · rcases List.mem_append.mp member with member | member
        · exact ⟨i, List.mem_cons_self, part, member, taken⟩
        · obtain ⟨j, listed, other, here, path⟩ := all e member
          exact ⟨j, List.mem_cons_of_mem i listed, other, here, path⟩

end ClusterBackup.Action
