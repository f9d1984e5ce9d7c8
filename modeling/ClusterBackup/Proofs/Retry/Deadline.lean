import ClusterBackup.Proofs.Program.Inevitable
import ClusterBackup.Proofs.Program.Repeating
import ClusterBackup.Proofs.Retry.Polls
import ClusterBackup.Simulation.Trial

/-! How long a program goes on that asks at intervals until the answer is yes.

The world has a clock. A question takes as long as it takes, so all that is known of the time
between two questions is that it is no shorter than the interval. Times have no end here. A real
clock shows none that is 2^63 seconds or more after its start, and a program that reckons with a
later one, as its deadline or as the end of a sleep, is stopped. -/

set_option autoImplicit false

universe u

namespace ClusterBackup

open Program

variable {ρ : Type → Type} [Timed ρ] {σ : Type u}

section

variable (world : σ → Exchange ρ → σ → Prop) (time : σ → Nat)

/-- A world whose clock can be read and waited for, and does not go back. Times are in nanoseconds. -/
structure Clock : Prop where
  forward : ∀ s e t, world s e t → time s ≤ time t
  reads : ∀ s now t, world s ⟨Timed.now, now⟩ t → time s ≤ now.nanos ∧ now.nanos ≤ time t
  sleeps : ∀ s d t, world s ⟨Timed.sleep d, ()⟩ t → time s + d.nanos ≤ time t
  can_read : ∀ s, ∃ now t, world s ⟨Timed.now, now⟩ t
  can_sleep : ∀ s d, ∃ t, world s ⟨Timed.sleep d, ()⟩ t

/-- Questions and the clock itself take no time, and a sleep takes so much longer than it is
meant to. -/
structure Prompt (interval : Duration) (slack : Nat) (check : Program ρ (Except Failure Bool)) :
    Prop where
  checks : ∀ s trace answer t, Path check trace (.done answer) → Explains world trace s t →
    time t = time s
  reads : ∀ s now t, world s ⟨Timed.now, now⟩ t → time t = time s
  sleeps : ∀ s t, world s ⟨Timed.sleep interval, ()⟩ t → time t = time s + (interval.nanos + slack)

end

/-- The questions from one on, with their answers, and whether the last answer is yes. After another
answer the clock is read. If there is time for one more question it is put an interval later. -/
inductive Questions (interval deadline : Duration) (check : Program ρ (Except Failure Bool)) :
    List (Except Failure Bool) → List (Exchange ρ) → Bool → Prop where
  | yes {trace : List (Exchange ρ)} :
      Path check trace (.done (.ok true)) → Questions interval deadline check [.ok true] trace true
  | late {answer : Except Failure Bool} {trace : List (Exchange ρ)} {now : Duration} :
      Path check trace (.done answer) → answer ≠ .ok true →
      deadline.nanos < now.nanos + interval.nanos →
      Questions interval deadline check [answer] (trace ++ [⟨Timed.now, now⟩]) false
  | again {answer : Except Failure Bool} {answers : List (Except Failure Bool)}
      {first rest : List (Exchange ρ)} {now : Duration} {said : Bool} :
      Path check first (.done answer) → answer ≠ .ok true →
      now.nanos + interval.nanos ≤ deadline.nanos →
      Questions interval deadline check answers rest said →
      Questions interval deadline check (answer :: answers)
        (first ++ ⟨Timed.now, now⟩ :: ⟨Timed.sleep interval, ()⟩ :: rest) said

section

variable {interval deadline timeout : Duration} {message : String}
  {check : Program ρ (Except Failure Bool)} {answers : List (Except Failure Bool)}
  {trace : List (Exchange ρ)} {said : Bool} {result : Except Failure Unit}

def verdict (message : String) (said : Bool) : Except Failure Unit :=
  if said then .ok () else .error (.timeout message)

/-- With a question after each step, the result and the number of questions are known from the
first answer yes if it can be had within the limit, and from the limit otherwise. -/
def Decided (message : String) (sequence : Nat → Except Failure Bool) (limit step : Nat)
    (result : Except Failure Unit) (count : Nat) : Prop :=
  (∀ k, sequence k = .ok true → (∀ n < k, sequence n ≠ .ok true) → k * step ≤ limit →
    result = .ok () ∧ count = k + 1) ∧
  ((∀ k, sequence k = .ok true → limit < k * step) →
    result = .error (.timeout message) ∧ count = limit / step + 1)

theorem Questions.of_polls
    (polls : Polls interval deadline message (do
      return (← check).map fun answer => if answer then some () else none) trace result) :
    ∃ answers said, Questions interval deadline check answers trace said ∧
      result = verdict message said := by
  have silent {answer : Except Failure Bool} (none : ∀ a, answer.map (fun answer =>
      if answer then some () else none) ≠ .ok (some a)) : answer ≠ .ok true := by
    rintro rfl
    exact none () rfl
  induction polls with
  | found path =>
    obtain ⟨answer, path, same⟩ := path_map_iff.mp path
    obtain _ | _ | _ := answer
    · cases same
    · cases same
    · exact ⟨_, true, .yes path, rfl⟩
  | late path unanswered late =>
    obtain ⟨answer, asked, rfl⟩ := path_map_iff.mp path
    exact ⟨_, false, .late asked (silent unanswered) late, rfl⟩
  | again path unanswered early _ ih =>
    obtain ⟨answer, asked, rfl⟩ := path_map_iff.mp path
    obtain ⟨answers, said, questions, rfl⟩ := ih
    exact ⟨_, said, .again asked (silent unanswered) early questions, rfl⟩

theorem questions_of_path
    (path : Path (pollUntil timeout interval message check) trace (.done result)) :
    ∃ start rest answers said, trace = ⟨Timed.now, start⟩ :: rest ∧
      Questions interval ⟨start.nanos + timeout.nanos⟩ check answers rest said ∧
      result = verdict message said := by
  obtain ⟨start, rest, rfl, polls⟩ := Polls.of_path path
  obtain ⟨answers, said, questions, same⟩ := Questions.of_polls polls
  exact ⟨start, rest, answers, said, rfl, questions, same⟩

theorem Questions.yes_iff (questions : Questions interval deadline check answers trace said) :
    answers ≠ [] ∧ ∀ n (h : n < answers.length), answers[n] = .ok true ↔
      said = true ∧ n + 1 = answers.length := by
  induction questions with
  | yes => exact ⟨nofun, fun n h => by simp at h; simp [h]⟩
  | late _ other => exact ⟨nofun, fun n h => by simp at h; simp [h, other]⟩
  | again _ other _ _ ih =>
    refine ⟨nofun, fun n h => ?_⟩
    cases n with
    | zero =>
      have := List.length_pos_iff.mpr ih.1
      simp only [List.getElem_cons_zero, other, List.length_cons, false_iff, not_and]
      omega
    | succ n => simpa using ih.2 n (by simpa using h)

variable {world : σ → Exchange ρ → σ → Prop} {time : σ → Nat} {s t : σ}

theorem Clock.not_before (clock : Clock world time) {earlier : Nat} (u : σ) (e : Exchange ρ) (v : σ)
    (answered : world u e v) (started : earlier ≤ time u) : earlier ≤ time v :=
  Nat.le_trans started (clock.forward u e v answered)

theorem Clock.le (clock : Clock world time) (explains : Explains world trace s t) : time s ≤ time t :=
  explains.keep (time s ≤ time ·) clock.not_before (Nat.le_refl _)

theorem Clock.of_round (clock : Clock world time) {now : Duration} {rest : List (Exchange ρ)}
    (explains : Explains world (trace ++ ⟨Timed.now, now⟩ :: ⟨Timed.sleep interval, ()⟩ :: rest) s t) :
    ∃ u, time s ≤ now.nanos ∧ time s + interval.nanos ≤ time u ∧ Explains world rest u t := by
  obtain ⟨asked, first, read, seen, u, slept, later⟩ := explains_append_iff.mp explains
  have := clock.le first
  have := clock.reads _ _ _ seen
  have := clock.sleeps _ _ _ slept
  exact ⟨u, by omega, by omega, later⟩

theorem Questions.length_mul_le (clock : Clock world time)
    (questions : Questions interval deadline check answers trace said)
    (explains : Explains world trace s t) :
    answers.length * interval.nanos ≤ (deadline.nanos - time s) + interval.nanos := by
  induction questions generalizing s with
  | yes => simp
  | late => simp
  | again _ _ early _ ih =>
    obtain ⟨u, started, slept, later⟩ := clock.of_round explains
    have := ih later
    rw [List.length_cons, Nat.succ_mul]
    omega

theorem Prompt.of_question {slack : Nat} (clock : Clock world time)
    (prompt : Prompt world time interval slack check) {now : Duration} {rest : List (Exchange ρ)}
    {answer : Except Failure Bool} (path : Path check trace (.done answer))
    (explains : Explains world (trace ++ ⟨Timed.now, now⟩ :: rest) s t) :
    ∃ u, now.nanos = time s ∧ time u = time s ∧ Explains world rest u t := by
  obtain ⟨asked, first, u, seen, later⟩ := explains_append_iff.mp explains
  have := prompt.checks _ _ _ _ path first
  have := prompt.reads _ _ _ seen
  have := clock.reads _ _ _ seen
  exact ⟨u, by omega, by omega, later⟩

/-- The last question is put no later than the slack of a sleep after the deadline. -/
theorem Questions.last_put_le {slack : Nat} (clock : Clock world time)
    (prompt : Prompt world time interval slack check)
    (questions : Questions interval deadline check answers trace said)
    (explains : Explains world trace s t) (started : time s ≤ deadline.nanos + slack) :
    time s + (answers.length - 1) * (interval.nanos + slack) ≤ deadline.nanos + slack := by
  induction questions generalizing s with
  | yes => simpa using started
  | late => simpa using started
  | again path _ early questions ih =>
    obtain ⟨u, read, same, v, slept, later⟩ := prompt.of_question clock path explains
    have := prompt.sleeps _ _ slept
    have last := ih later (by omega)
    obtain ⟨n, counted⟩ := Nat.exists_eq_add_one.mpr (List.length_pos_iff.mpr questions.yes_iff.1)
    rw [counted, Nat.add_sub_cancel] at last
    rw [List.length_cons, Nat.add_sub_cancel, counted, Nat.succ_mul]
    omega

/-- If all questions were in vain, there was no time for another one after the last. -/
theorem Questions.lt_length_mul {slack : Nat} (clock : Clock world time)
    (prompt : Prompt world time interval slack check)
    (questions : Questions interval deadline check answers trace false)
    (explains : Explains world trace s t) :
    deadline.nanos + slack < time s + answers.length * (interval.nanos + slack) := by
  generalize unsaid : false = said at questions
  induction questions generalizing s with
  | yes => cases unsaid
  | late path _ late =>
    obtain ⟨u, read, -, -⟩ := prompt.of_question clock path explains
    rw [List.length_singleton]
    omega
  | again path _ early _ ih =>
    obtain ⟨u, read, same, v, slept, later⟩ := prompt.of_question clock path explains
    have := prompt.sleeps _ _ slept
    have := ih later unsaid
    rw [List.length_cons, Nat.succ_mul]
    omega

theorem Questions.decided {limit step : Nat}
    (questions : Questions interval deadline check answers trace said)
    {sequence : Nat → Except Failure Bool}
    (listed : answers = (List.range answers.length).map sequence)
    (soon : (answers.length - 1) * step ≤ limit)
    (spent : said = false → limit < answers.length * step) :
    Decided message sequence limit step (verdict message said) answers.length := by
  obtain ⟨some, yes_iff⟩ := questions.yes_iff
  have asked : 0 < answers.length := List.length_pos_iff.mpr some
  have is_yes (n : Nat) (h : n < answers.length) :
      sequence n = .ok true ↔ said = true ∧ n + 1 = answers.length := by
    have same : answers[n] = sequence n := (List.getElem_of_eq listed h).trans (by simp)
    rw [← yes_iff n h, same]
  -- The answers are the first of the sequence, so a yes among them is the first of all.
  cases said with
  | true =>
    have last := (is_yes (answers.length - 1) (by omega)).mpr ⟨rfl, by omega⟩
    refine ⟨fun k yes first _ => ⟨rfl, ?_⟩, fun never => ?_⟩
    · rcases Nat.lt_or_ge k answers.length with within | beyond
      · exact ((is_yes k within).mp yes).2.symm
      · exact absurd last (first (answers.length - 1) (by omega))
    · have := never _ last
      omega
  | false =>
    have spent := spent rfl
    refine ⟨fun k yes _ soonEnough => ?_, fun _ => ⟨rfl, ?_⟩⟩
    · have within : k < answers.length := Nat.lt_of_mul_lt_mul_right (Nat.lt_of_le_of_lt soonEnough spent)
      cases ((is_yes k within).mp yes).1
    · have counted : answers.length - 1 + 1 = answers.length := Nat.sub_add_cancel asked
      rw [Nat.div_eq_of_lt_le soon (by rwa [counted]), counted]

theorem Questions.decided_of_prompt {slack : Nat} (clock : Clock world time)
    (prompt : Prompt world time interval slack check)
    (questions : Questions interval deadline check answers trace said)
    (explains : Explains world trace s t) (begun : deadline.nanos = time s + timeout.nanos)
    {sequence : Nat → Except Failure Bool}
    (listed : answers = (List.range answers.length).map sequence) :
    Decided message sequence (timeout.nanos + slack) (interval.nanos + slack)
      (verdict message said) answers.length := by
  refine questions.decided listed ?_ fun unsaid => ?_
  · have := questions.last_put_le clock prompt explains (by omega)
    omega
  · subst unsaid
    have := questions.lt_length_mul clock prompt explains
    omega

/-- A world answers a question with one reply after the other. -/
structure InTurn (world : σ → Exchange ρ → σ → Prop) (question : ρ (Except Failure Bool))
    (asked : σ → Nat) (sequence : Nat → Except Failure Bool) : Prop where
  replies : ∀ s reply t, world s ⟨question, reply⟩ t →
    reply = sequence (asked s) ∧ asked t = asked s + 1
  reads : ∀ s now t, world s ⟨Timed.now, now⟩ t → asked t = asked s
  sleeps : ∀ s d t, world s ⟨Timed.sleep d, ()⟩ t → asked t = asked s

theorem InTurn.answers_eq {question : ρ (Except Failure Bool)} {asked : σ → Nat}
    {sequence : Nat → Except Failure Bool} (inTurn : InTurn world question asked sequence)
    (questions : Questions interval deadline (Program.ask question) answers trace said)
    (explains : Explains world trace s t) :
    answers = ((List.range answers.length).map fun n => sequence (asked s + n)) ∧
      asked t = asked s + answers.length := by
  induction questions generalizing s with
  | yes path =>
    obtain rfl := Path.of_ask path
    obtain ⟨u, answered, rfl⟩ := explains
    obtain ⟨same, counted⟩ := inTurn.replies _ _ _ answered
    exact ⟨congrArg (fun answer => [answer]) same, counted⟩
  | late path =>
    obtain rfl := Path.of_ask path
    obtain ⟨u, answered, v, read, rfl⟩ := explains
    obtain ⟨same, counted⟩ := inTurn.replies _ _ _ answered
    exact ⟨congrArg (fun answer => [answer]) same, (inTurn.reads _ _ _ read).trans counted⟩
  | again path _ _ _ ih =>
    obtain rfl := Path.of_ask path
    obtain ⟨u, answered, v, read, w, slept, later⟩ := explains
    obtain ⟨same, counted⟩ := inTurn.replies _ _ _ answered
    obtain ⟨rest, all⟩ := ih later
    rw [inTurn.sleeps _ _ _ slept, inTurn.reads _ _ _ read, counted] at rest all
    refine ⟨?_, by rw [all, List.length_cons]; omega⟩
    rw [List.length_cons, List.range_succ_eq_map, List.map_cons, List.map_map, same]
    refine congrArg (_ :: ·) (rest.trans (List.map_congr_left fun n _ => ?_))
    simp only [Function.comp_apply, Nat.succ_eq_add_one, Nat.add_assoc, Nat.add_comm 1]

theorem accounted_of_path (clock : Clock world time) (positive : 0 < interval.nanos)
    (path : Path (pollUntil timeout interval message check) trace (.done result))
    (explains : Explains world trace s t) :
    ∃ start rest answers said, trace = ⟨Timed.now, start⟩ :: rest ∧
      Questions interval ⟨start.nanos + timeout.nanos⟩ check answers rest said ∧
      result = verdict message said ∧
      answers.length ≤ timeout.nanos / interval.nanos + 1 ∧
      (answers.length - 1) * interval.nanos ≤ timeout.nanos ∧
      ∀ slack, Prompt world time interval slack check → ∀ sequence,
        answers = (List.range answers.length).map sequence →
        Decided message sequence (timeout.nanos + slack) (interval.nanos + slack) result
          answers.length := by
  obtain ⟨start, rest, answers, said, rfl, questions, rfl⟩ := questions_of_path path
  obtain ⟨u, read, later⟩ := explains
  have begun := clock.reads _ _ _ read
  have bounded := questions.length_mul_le clock later
  have soon : (answers.length - 1) * interval.nanos ≤ timeout.nanos := by
    rw [Nat.sub_one_mul]
    simp only at bounded
    omega
  have count : answers.length - 1 ≤ timeout.nanos / interval.nanos :=
    (Nat.le_div_iff_mul_le positive).mpr soon
  refine ⟨start, rest, answers, said, rfl, questions, rfl, by omega, soon, ?_⟩
  intro slack prompt sequence listed
  have same := prompt.reads _ _ _ read
  exact questions.decided_of_prompt clock prompt later (by simp only; omega) listed

/-- Where questions are replied to in turn, the replies decide what polling comes to. -/
theorem InTurn.decided {question : ρ (Except Failure Bool)} {asked : σ → Nat} {slack : Nat}
    {sequence : Nat → Except Failure Bool} (inTurn : InTurn world question asked sequence)
    (clock : Clock world time) (positive : 0 < interval.nanos)
    (prompt : Prompt world time interval slack (Program.ask question))
    (path : Path (pollUntil timeout interval message (Program.ask question)) trace (.done result))
    (explains : Explains world trace s t) (fresh : asked s = 0) :
    Decided message sequence (timeout.nanos + slack) (interval.nanos + slack) result (asked t) := by
  obtain ⟨start, rest, answers, said, rfl, questions, rfl, -, -, decided⟩ :=
    accounted_of_path clock positive path explains
  obtain ⟨u, read, later⟩ := explains
  obtain ⟨listed, counted⟩ := inTurn.answers_eq questions later
  rw [inTurn.reads _ _ _ read, fresh] at listed counted
  simp only [Nat.zero_add] at listed counted
  rw [counted]
  exact decided slack prompt sequence listed

end

namespace Simulation.Trial

/-- How many questions were put, and how long ago the first one was. -/
structure Stage where
  asked : Nat := 0
  passed : Nat := 0

/-- How much later than it is meant to a sleep is over: its last tick is a whole one. -/
def slack (tick : Nat) (d : Duration) : Nat := (tick - d.nanos % tick) % tick

/-- Questions get one reply after the other. Nothing but sleeping takes time, by a timer that goes
in ticks. -/
def Passes (tick : Nat) (sequence : Nat → Except Failure Bool) (s : Stage) :
    Exchange Trial → Stage → Prop
  | ⟨.check, reply⟩, t => reply = sequence s.asked ∧ t = { s with asked := s.asked + 1 }
  | ⟨.now, shown⟩, t => shown = ⟨s.passed⟩ ∧ t = s
  | ⟨.sleep d, _⟩, t => t = { s with passed := s.passed + (d.nanos + slack tick d) }
  | _, t => t = s

namespace Passes

variable (tick : Nat) (sequence : Nat → Except Failure Bool)

theorem clock : Clock (Passes tick sequence) Stage.passed where
  forward := by
    rintro s ⟨request, reply⟩ t passes
    cases request with
    | check =>
      obtain ⟨-, rfl⟩ := passes
      exact Nat.le_refl _
    | now =>
      obtain ⟨-, rfl⟩ := passes
      exact Nat.le_refl _
    | sleep d =>
      obtain rfl := passes
      exact Nat.le_add_right _ _
    | _ =>
      obtain rfl := passes
      exact Nat.le_refl _
  reads := by
    rintro s now t ⟨rfl, rfl⟩
    exact ⟨Nat.le_refl _, Nat.le_refl _⟩
  sleeps := by
    rintro s d t rfl
    exact Nat.add_le_add_left (Nat.le_add_right _ _) _
  can_read := fun s => ⟨⟨s.passed⟩, s, rfl, rfl⟩
  can_sleep := fun s d => ⟨_, rfl⟩

theorem prompt (interval : Duration) :
    Prompt (Passes tick sequence) Stage.passed interval (slack tick interval)
      (Program.ask check) where
  checks := by
    rintro s trace reply t path explains
    obtain rfl := Path.of_ask path
    obtain ⟨u, ⟨-, rfl⟩, rfl⟩ := explains
    rfl
  reads := by
    rintro s now t ⟨-, rfl⟩
    rfl
  sleeps := by
    rintro s t rfl
    rfl

theorem inTurn : InTurn (Passes tick sequence) check Stage.asked sequence where
  replies := by
    rintro s reply t ⟨rfl, rfl⟩
    exact ⟨rfl, rfl⟩
  reads := by
    rintro s now t ⟨-, rfl⟩
    rfl
  sleeps := by
    rintro s d t rfl
    rfl

end Passes

variable {p : Prescription} {r t : Record} {trace : List (Exchange Trial)}

/-- Trials answer as prescribed, and their clock goes on while they sleep. -/
def Answers (p : Prescription) (r : Record) (e : Exchange Trial) (t : Record) : Prop :=
  (e.reply, t) = answer p e.request r

/-- The reply to a check, as prescribed. -/
def prescribed (p : Prescription) (call : Nat) : Except Failure Bool :=
  (lasting p.checks call).getD (.ok false)

def stage (r : Record) : Stage := ⟨r.checks, (Duration.ofMillis r.clock).nanos⟩

/-- The clock of the trials is a timer with ticks of a millisecond. -/
theorem Answers.passes {e : Exchange Trial} (answers : Answers p r e t) :
    Passes 1000000 (prescribed p) (stage r) e (stage t) := by
  obtain ⟨request, reply⟩ := e
  cases request with
  | check =>
    cases answers
    exact ⟨rfl, rfl⟩
  | now =>
    cases answers
    exact ⟨rfl, rfl⟩
  | sleep d =>
    cases answers
    refine congrArg (Stage.mk r.checks) ?_
    simp only [Duration.ofMillis, milliseconds, stage, slack]
    omega
  | _ =>
    cases answers
    rfl

theorem Answers.clock (p : Prescription) : Clock (Answers p) fun r => (stage r).passed where
  forward := fun _ _ _ answers => (Passes.clock _ _).forward _ _ _ answers.passes
  reads := fun _ _ _ answers => (Passes.clock _ _).reads _ _ _ answers.passes
  sleeps := fun _ _ _ answers => (Passes.clock _ _).sleeps _ _ _ answers.passes
  can_read := fun r => ⟨.ofMillis r.clock, r, rfl⟩
  can_sleep := fun _ _ => ⟨_, rfl⟩

end Simulation.Trial

end ClusterBackup
