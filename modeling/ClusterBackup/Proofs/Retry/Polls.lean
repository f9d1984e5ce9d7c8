import ClusterBackup.Proofs.Program.Ending
import ClusterBackup.Retry

/-! What a program has exchanged that asks at intervals until there is an answer. -/

set_option autoImplicit false

namespace ClusterBackup

open Program

variable {ρ : Type → Type} [Timed ρ] {α : Type} {interval deadline timeout : Duration}
  {message : String} {trace : List (Exchange ρ)}

/-- The questions from one on. After each but the last there was still time for another one. -/
inductive Polls (interval deadline : Duration) (message : String)
    (check : Program ρ (Except Failure (Option α))) : List (Exchange ρ) → Except Failure α → Prop where
  | found {trace : List (Exchange ρ)} {answer : α} :
      Path check trace (.done (.ok (some answer))) →
      Polls interval deadline message check trace (.ok answer)
  | late {trace : List (Exchange ρ)} {result : Except Failure (Option α)} {now : Duration} :
      Path check trace (.done result) → (∀ answer, result ≠ .ok (some answer)) →
      deadline.nanos < now.nanos + interval.nanos →
      Polls interval deadline message check (trace ++ [⟨Timed.now, now⟩]) (.error (.timeout message))
  | again {first rest : List (Exchange ρ)} {result : Except Failure (Option α)} {now : Duration}
      {ending : Except Failure α} :
      Path check first (.done result) → (∀ answer, result ≠ .ok (some answer)) →
      now.nanos + interval.nanos ≤ deadline.nanos →
      Polls interval deadline message check rest ending →
      Polls interval deadline message check
        (first ++ ⟨Timed.now, now⟩ :: ⟨Timed.sleep interval, ()⟩ :: rest) ending

/-- A question after `before` is the first one, or it is put an interval after a time from which
the deadline was no nearer than that. -/
def InTime (interval deadline : Duration) (before : List (Exchange ρ)) : Prop :=
  before = [] ∨ ∃ earlier now, before = earlier ++ [⟨Timed.now, now⟩, ⟨Timed.sleep interval, ()⟩] ∧
    now.nanos + interval.nanos ≤ deadline.nanos

section

variable {check : Program ρ (Except Failure (Option α))} {ending : Except Failure α}
  {result : Except Failure (Option α)} {answer : α} {round : Unit ⊕ Except Failure α}

variable (interval deadline message) in
def wait : Program ρ (Unit ⊕ Except Failure α) := do
  let now ← Program.ask (Timed.now (ρ := ρ))
  if deadline.nanos < now.nanos + interval.nanos then return .inr (.error (.timeout message))
  else
    Program.ask (Timed.sleep interval)
    return .inl ()

theorem of_wait (path : Path (wait interval deadline message) trace (.done round)) :
    ∃ now, (trace = [⟨Timed.now, now⟩] ∧ round = .inr (.error (.timeout message)) ∧
        deadline.nanos < now.nanos + interval.nanos) ∨
      (trace = [⟨Timed.now, now⟩, ⟨Timed.sleep interval, ()⟩] ∧ round = .inl () ∧
        now.nanos + interval.nanos ≤ deadline.nanos) := by
  obtain ⟨now, _, rest, rfl, asked, going⟩ := Path.of_bind path
  obtain rfl := Path.of_ask asked
  refine ⟨now, ?_⟩
  by_cases late : deadline.nanos < now.nanos + interval.nanos
  · rw [if_pos late] at going
    obtain ⟨rfl, rfl⟩ := Path.of_done going
    exact .inl ⟨rfl, rfl, late⟩
  · rw [if_neg late] at going
    obtain ⟨_, _, rest, rfl, slept, ended⟩ := Path.of_bind going
    obtain rfl := Path.of_ask slept
    obtain ⟨rfl, rfl⟩ := Path.of_done ended
    exact .inr ⟨rfl, rfl, Nat.not_lt.mp late⟩

theorem Polls.of_path (path : Path (pollFor timeout interval message check) trace (.done ending)) :
    ∃ start rest, trace = ⟨Timed.now, start⟩ :: rest ∧
      Polls interval ⟨start.nanos + timeout.nanos⟩ message check rest ending := by
  obtain ⟨start, _, rest, rfl, asked, polling⟩ := Path.of_bind path
  obtain rfl := Path.of_ask asked
  refine ⟨start, rest, rfl, ?_⟩
  unfold repeating at polling
  clear path
  -- A question after which another one follows has slept, so what comes after it is shorter.
  induction size : rest.length using Nat.strongRecOn generalizing rest with
  | ind k ih =>
    cases polling with
    | loop path =>
      obtain ⟨round, first, later, rfl, body, going⟩ := Path.of_bind path
      obtain ⟨result, asked, closing, rfl, checked, body⟩ := Path.of_bind body
      have waits (silent : ∀ answer, result ≠ .ok (some answer))
          (body : Path (wait interval ⟨start.nanos + timeout.nanos⟩ message) closing (.done round)) :
          Polls interval ⟨start.nanos + timeout.nanos⟩ message check (asked ++ closing ++ later)
            ending := by
        obtain ⟨now, ⟨rfl, rfl, late⟩ | ⟨rfl, rfl, early⟩⟩ := of_wait body
        · obtain ⟨rfl, rfl⟩ := Path.of_done going
          rw [List.append_nil]
          exact .late checked silent late
        · have rest := ih later.length (by simp at size; omega) later going rfl
          simpa using Polls.again checked silent early rest
      rcases result with failure | _ | answer
      · exact waits (fun _ => nofun) body
      · exact waits (fun _ => nofun) body
      · obtain ⟨rfl, rfl⟩ := Path.of_done body
        obtain ⟨rfl, rfl⟩ := Path.of_done going
        simpa using Polls.found checked

theorem Polls.of_ok (polls : Polls interval deadline message check trace (.ok answer)) :
    ∃ before last, trace = before ++ last ∧ InTime interval deadline before ∧
      Path check last (.done (.ok (some answer))) := by
  generalize ended : (.ok answer : Except Failure α) = ending at polls
  induction polls with
  | found path =>
    cases ended
    exact ⟨[], _, rfl, .inl rfl, path⟩
  | late => cases ended
  | @again first rest _ now _ _ _ early _ ih =>
    obtain ⟨before, last, rfl, begun, path⟩ := ih ended
    refine ⟨first ++ ⟨Timed.now, now⟩ :: ⟨Timed.sleep interval, ()⟩ :: before, last, by simp,
      .inr ?_, path⟩
    rcases begun with rfl | ⟨earlier, later, rfl, soon⟩
    · exact ⟨first, now, rfl, early⟩
    · exact ⟨first ++ ⟨Timed.now, now⟩ :: ⟨Timed.sleep interval, ()⟩ :: earlier, later, by simp, soon⟩

end

theorem of_pollUntil {check : Program ρ (Except Failure Bool)}
    (path : Path (pollUntil timeout interval message check) trace (.done (.ok ()))) :
    ∃ start before last, trace = ⟨Timed.now, start⟩ :: (before ++ last) ∧
      InTime interval ⟨start.nanos + timeout.nanos⟩ before ∧ Path check last (.done (.ok true)) := by
  obtain ⟨start, rest, rfl, polls⟩ := Polls.of_path path
  obtain ⟨before, last, rfl, begun, asked⟩ := polls.of_ok
  obtain ⟨result, first, closing, rfl, checked, ended⟩ := Path.of_bind asked
  obtain ⟨rfl, same⟩ := Path.of_done ended
  refine ⟨start, before, first, by simp, begun, ?_⟩
  rcases result with failure | _ | _
  · cases same
  · cases same
  · exact checked

end ClusterBackup
