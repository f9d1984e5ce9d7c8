import ClusterBackup.Proofs.Backup.Footprint
import ClusterBackup.Proofs.Program.Interleaving
import ClusterBackup.Proofs.Simulation.Steady
import ClusterBackup.Run.Cron

/-! Scheduled runs behind one gate.

Any number of calls go on at the same time, in any order of their single exchanges. What the
gate replies depends on the gate alone; all other replies are anything at all. -/

set_option autoImplicit false

universe v

namespace ClusterBackup

open Program

/-- How a gate replies to those who come and go. Everything else leaves it as it is. -/
def Gate.Answers (g : Gate) : Exchange Request → Gate → Prop
  | ⟨.acquire who, .ok ()⟩, g' => g.acquire who = .ok g'
  | ⟨.acquire who, .error holder⟩, g' => g.acquire who = .error holder ∧ g' = g
  | ⟨.release, _⟩, g' => g' = g.release
  | _, g' => g' = g

theorem Gate.acquire_eq_ok_iff {g g' : Gate} {who : String} :
    g.acquire who = .ok g' ↔ g.holder = none ∧ g' = ⟨some who⟩ := by
  unfold acquire
  cases g.holder <;> simp [eq_comm]

theorem Gate.acquire_eq_error_iff {g : Gate} {who holder : String} :
    g.acquire who = .error holder ↔ g.holder = some holder := by
  unfold acquire
  cases g.holder <;> simp

theorem Gate.answers_iff_of_other {g g' : Gate} {e : Exchange Request} (other : e.request.reach ≠ .turns) :
    g.Answers e g' ↔ g' = g := by
  obtain ⟨request, reply⟩ := e
  cases request with
  | acquire | release | start => exact absurd rfl other
  | _ => exact Iff.rfl

theorem Simulation.World.gate_answers {β : Type} (r : Request β) (w : World) :
    w.gate.Answers ⟨r, (w.answer r).1.value⟩ (w.answer r).2.gate := by
  by_cases turns : r.reach = .turns
  · cases r with
    | acquire who =>
      cases found : w.gate.acquire who with
      | ok gate =>
        have reply : w.answer (.acquire who) = ({ value := .ok () }, { w with gate }) := by
          simp only [answer, acquire, found, atOnce]
        rw [reply]
        exact found
      | error holder =>
        have reply : w.answer (.acquire who) = ({ value := .error holder }, w) := by
          simp only [answer, acquire, found, atOnce]
        rw [reply]
        exact ⟨found, rfl⟩
    | release => rfl
    | start => rfl
    | _ => cases turns
  · exact (Gate.answers_iff_of_other turns).mpr (steady_answer r w turns).gate

namespace Cron

/-- One scheduled run. -/
structure Call where
  setting : Setting
  host : Host
  nameSpace : String
  name : String
  time : Instant

namespace Call

variable {call : Call}

def key (call : Call) : String := call.nameSpace ++ "/" ++ call.name

def code (call : Call) : Program Request (Except Failure FireOutcome) :=
  (fire call.setting call.host call.nameSpace call.name call.time).run

def run (call : Call) : Program Request (Except Failure Unit) :=
  (Backup.runOnce call.setting call.host call.nameSpace call.name call.time).run

def taken (call : Call) : Exchange Request := ⟨.acquire call.key, .ok ()⟩

def refused (call : Call) (holder : String) : Exchange Request :=
  ⟨.acquire call.key, .error holder⟩

def freed : Exchange Request := ⟨.release, ()⟩

def failed (call : Call) (failure : Failure) : Request Unit :=
  .publish {
    object := configurationReference call.nameSpace call.name
    warning := true
    reason := "FailedCronJob"
    action := "Backup"
    note := some failure.message }

def told (call : Call) : Except Failure Unit → List (Exchange Request)
  | .ok () => []
  | .error failure => [⟨call.failed failure, ()⟩]

/-- What a call has exchanged so far, and its result once it has one. -/
inductive Course (call : Call) : List (Exchange Request) → Option (Except Failure FireOutcome) → Prop where
  | waiting : Course call [] none
  | skipped (holder : String) : Course call [call.refused holder] (some (.ok (.skipped holder)))
  | running {part : List (Exchange Request)} {rest : Program Request (Except Failure Unit)} :
      Path call.run part rest → Course call (call.taken :: part) none
  | reported {part : List (Exchange Request)} {failure : Failure} :
      Path call.run part (.done (.error failure)) →
      Course call (call.taken :: (part ++ call.told (.error failure))) none
  | ended {part : List (Exchange Request)} {outcome : Except Failure Unit} :
      Path call.run part (.done outcome) →
      Course call (call.taken :: (part ++ (call.told outcome ++ [freed])))
        (some (outcome.map fun () => .ran))

end Call

end Cron

namespace Program

def result? {ρ : Type → Type} {α : Type} : Program ρ α → Option α
  | .done a => some a
  | _ => none

end Program

namespace Cron

namespace Call

variable {call : Call}

def afterwards (call : Call) : Except Failure Unit → Program Request (Except Failure FireOutcome)
  | .ok () => .request .release fun _ => .done (.ok .ran)
  | .error failure =>
    .request (call.failed failure) fun _ => .request .release fun _ => .done (.error failure)

theorem code_eq (call : Call) : call.code = .request (Request.acquire call.key) fun
    | .error holder => .done (.ok (.skipped holder))
    | .ok () => call.run.bind call.afterwards := by
  refine congrArg (Program.request (Request.acquire call.key)) (funext fun reply => ?_)
  match reply with
  | .error holder => rfl
  | .ok () =>
    refine (bind_assoc call.run _ _).trans (congrArg call.run.bind (funext fun outcome => ?_))
    match outcome with
    | .ok () => rfl
    | .error failure => rfl

theorem course {trace : List (Exchange Request)} {rest : Program Request (Except Failure FireOutcome)}
    (path : Path call.code trace rest) : call.Course trace rest.result? := by
  rw [code_eq] at path
  cases path with
  | here => exact .waiting
  | @request _ _ _ reply trace _ path =>
    match reply with
    | .error holder =>
      cases path
      exact .skipped holder
    | .ok () =>
      obtain ⟨rest, going, rfl⟩ | ⟨outcome, part, later, rfl, ended, further⟩ := path.bind_cases
      · have open' : (rest.bind call.afterwards).result? = none := by
          rcases rest with (failure | _) | _ | _ <;> rfl
        rw [open']
        exact .running going
      -- After the run a failure is told, and then the gate is left.
      · match outcome with
        | .ok () =>
          cases further with
          | here =>
            rw [List.append_nil]
            exact .running ended
          | request further =>
            cases further
            exact .ended ended
        | .error failure =>
          cases further with
          | here =>
            rw [List.append_nil]
            exact .running ended
          | request further =>
            cases further with
            | here => exact .reported ended
            | request further =>
              cases further
              exact .ended ended

def takes : Exchange Request → Bool
  | ⟨.acquire _, .ok ()⟩ => true
  | _ => false

def frees : Exchange Request → Bool
  | ⟨.release, _⟩ => true
  | _ => false

/-- Between taking the gate and leaving it. -/
def Inside (exchanged : List (Exchange Request)) : Prop :=
  (∃ e ∈ exchanged, takes e = true) ∧ ∀ e ∈ exchanged, frees e = false

/-- What a call exchanges next. -/
inductive Next (call : Call) : List (Exchange Request) → Exchange Request → Prop where
  | refused (holder : String) : Next call [] (call.refused holder)
  | taken : Next call [] call.taken
  | within {before : List (Exchange Request)} {e : Exchange Request} :
      Inside before → e.request.reach ≠ .turns → Next call before e
  | freed {before : List (Exchange Request)} : Inside before → Next call before freed

theorem frees_of_other {e : Exchange Request} (other : e.request.reach ≠ .turns) : frees e = false := by
  obtain ⟨request, reply⟩ := e
  cases request with
  | release => exact absurd rfl other
  | _ => rfl

theorem inside_taken {part : List (Exchange Request)} (apart : Apart .turns part) :
    Inside (call.taken :: part) :=
  ⟨⟨call.taken, List.mem_cons_self, rfl⟩,
    List.forall_mem_cons.mpr ⟨rfl, fun e member => frees_of_other (apart e member)⟩⟩

theorem Inside.concat {before : List (Exchange Request)} {e : Exchange Request} (inside : Inside before)
    (other : e.request.reach ≠ .turns) : Inside (before ++ [e]) := by
  obtain ⟨⟨first, member, taken⟩, kept⟩ := inside
  refine ⟨⟨first, List.mem_append_left _ member, taken⟩, List.forall_mem_append.mpr ⟨kept, ?_⟩⟩
  exact List.forall_mem_singleton.mpr (frees_of_other other)

theorem not_inside_nil : ¬ Inside [] := fun inside => by simp [Inside] at inside

theorem not_inside_refused (call : Call) (holder : String) : ¬ Inside [call.refused holder] :=
  fun inside => by simp [Inside, takes, refused] at inside

theorem not_inside_freed (before : List (Exchange Request)) : ¬ Inside (before ++ [freed]) :=
  fun inside => by simpa [frees, freed] using inside.2 freed List.mem_concat_self

theorem apart_run {part : List (Exchange Request)} {rest : Program Request (Except Failure Unit)}
    (path : Path call.run part rest) : Apart .turns part := by
  have touches : Touches Backup.runReach call.run := Backup.runOnce_touches _ _ _ _ _
  exact touches.apart path (by decide)

theorem apart_told (call : Call) (outcome : Except Failure Unit) : Apart .turns (call.told outcome) := by
  cases outcome with
  | ok _ => exact apart_nil _
  | error failure => exact (apart_cons _ _ _).mpr ⟨nofun, apart_nil _⟩

theorem next_of_taken {before rest : List (Exchange Request)} {e : Exchange Request}
    (apart : Apart .turns rest) (same : before ++ [e] = call.taken :: rest) : call.Next before e := by
  cases before with
  | nil =>
    cases same
    exact .taken
  | cons first before =>
    obtain ⟨rfl, rfl⟩ := List.cons.inj same
    have ⟨earlier, last⟩ := (apart_append _ _ _).mp apart
    exact .within (inside_taken earlier) (last e (List.mem_singleton_self e))

theorem Course.next {before : List (Exchange Request)} {e : Exchange Request}
    {result : Option (Except Failure FireOutcome)} (course : call.Course (before ++ [e]) result) :
    call.Next before e := by
  generalize whole : before ++ [e] = trace at course
  cases course with
  | waiting => simp at whole
  | skipped holder =>
    obtain ⟨rfl, same⟩ := List.append_inj' (whole.trans (List.nil_append _).symm) rfl
    cases same
    exact .refused holder
  | running path => exact next_of_taken (apart_run path) whole
  | reported path =>
    exact next_of_taken ((apart_append _ _ _).mpr ⟨apart_run path, apart_told call _⟩) whole
  | @ended part outcome path =>
    rw [← List.append_assoc, ← List.cons_append] at whole
    obtain ⟨rfl, same⟩ := List.append_inj' whole rfl
    cases same
    exact .freed (inside_taken ((apart_append _ _ _).mpr ⟨apart_run path, apart_told call _⟩))

end Call

open Call

variable {κ : Type v} [DecidableEq κ]

/-- The gate that the calls share, and all that they have exchanged. -/
structure Hall (κ : Type v) where
  gate : Gate
  log : List (κ × Exchange Request)

def own (c : κ) (log : List (κ × Exchange Request)) : List (Exchange Request) :=
  log.filterMap fun p => if p.1 = c then some p.2 else none

def Passes (c : κ) (s : Hall κ) (e : Exchange Request) (t : Hall κ) : Prop :=
  s.gate.Answers e t.gate ∧ t.log = s.log ++ [(c, e)]

def begin (calls : κ → Call) : System Request (Hall κ) fun _ : κ => Except Failure FireOutcome where
  code c := (calls c).code
  state := ⟨{}, []⟩

def Free (log : List (κ × Exchange Request)) : Prop := ∀ d, ¬ Inside (own d log)

/-- One call is inside, and no other one. -/
def HeldBy (c : κ) (log : List (κ × Exchange Request)) : Prop := ∀ d, Inside (own d log) ↔ d = c

/-- What the gate knows of its holder is true. -/
inductive Recorded (calls : κ → Call) (log : List (κ × Exchange Request)) : Option String → Prop where
  | free : Free log → Recorded calls log none
  | held {c : κ} : HeldBy c log → Recorded calls log (some (calls c).key)

/-- What a call may exchange after all that the calls have exchanged before. -/
inductive InTurn (calls : κ → Call) (before : List (κ × Exchange Request)) (c : κ) :
    Exchange Request → Prop where
  | taken : Free before → InTurn calls before c (calls c).taken
  | refused {d : κ} : HeldBy d before → d ≠ c →
      InTurn calls before c ((calls c).refused (calls d).key)
  | within {e : Exchange Request} : HeldBy c before → e.request.reach ≠ .turns →
      InTurn calls before c e
  | freed : HeldBy c before → InTurn calls before c freed

section

variable {calls : κ → Call} {s t : Hall κ} {log : List (κ × Exchange Request)} {c d : κ}
  {e : Exchange Request}

theorem own_concat_self (c : κ) (e : Exchange Request) (log : List (κ × Exchange Request)) :
    own c (log ++ [(c, e)]) = own c log ++ [e] := by
  simp [own]

theorem own_concat_of_ne (other : d ≠ c) (e : Exchange Request) (log : List (κ × Exchange Request)) :
    own d (log ++ [(c, e)]) = own d log := by
  simp [own, Ne.symm other]

theorem HeldBy.of_inside {holder : Option String} (recorded : Recorded calls log holder)
    (inside : Inside (own c log)) : HeldBy c log ∧ holder = some (calls c).key := by
  cases recorded with
  | free free => exact absurd inside (free c)
  | @held d held =>
    cases (held c).mp inside
    exact ⟨held, rfl⟩

theorem Recorded.concat {holder : Option String} (recorded : Recorded calls log holder)
    (same : Inside (own c log ++ [e]) ↔ Inside (own c log)) :
    Recorded calls (log ++ [(c, e)]) holder := by
  have same (d : κ) : Inside (own d (log ++ [(c, e)])) ↔ Inside (own d log) := by
    by_cases self : d = c
    · rw [self, own_concat_self]
      exact same
    · rw [own_concat_of_ne self]
  cases recorded with
  | free free => exact .free fun d => mt (same d).mp (free d)
  | held held => exact .held fun d => (same d).trans (held d)

theorem Free.taken (free : Free log) (first : own c log = []) :
    HeldBy c (log ++ [(c, (calls c).taken)]) := by
  intro d
  by_cases self : d = c
  · rw [self, own_concat_self, first]
    exact iff_of_true (inside_taken (apart_nil _)) rfl
  · rw [own_concat_of_ne self]
    exact iff_of_false (free d) self

theorem HeldBy.freed (held : HeldBy c log) : Free (log ++ [(c, Call.freed)]) := by
  intro d
  by_cases self : d = c
  · rw [self, own_concat_self]
    exact not_inside_freed _
  · rw [own_concat_of_ne self]
    exact mt (held d).mp self

theorem Recorded.step (recorded : Recorded calls s.log s.gate.holder) (passes : Passes c s e t)
    (next : (calls c).Next (own c s.log) e) :
    Recorded calls t.log t.gate.holder ∧ InTurn calls s.log c e := by
  obtain ⟨answers, log⟩ := passes
  rw [log]
  generalize before : own c s.log = mine at next
  -- Only taking the gate and leaving it change the holder. All other exchanges keep it.
  cases next with
  | refused holder =>
    have ⟨found, gate⟩ := answers
    have outside : ¬ Inside (own c s.log) := before ▸ not_inside_nil
    have still : Recorded calls (s.log ++ [(c, (calls c).refused holder)]) s.gate.holder := by
      refine recorded.concat (iff_of_false ?_ outside)
      rw [before]
      exact not_inside_refused _ holder
    rw [Gate.acquire_eq_error_iff] at found
    rw [gate]
    refine ⟨still, ?_⟩
    rw [found] at recorded
    cases recorded with
    | @held d held => exact .refused held fun same => outside (same ▸ (held d).mpr rfl)
  | taken =>
    obtain ⟨nobody, gate⟩ := Gate.acquire_eq_ok_iff.mp answers
    rw [nobody] at recorded
    cases recorded with
    | free free =>
      rw [gate]
      exact ⟨.held (free.taken before), .taken free⟩
  | within inside other =>
    rw [← before] at inside
    rw [(Gate.answers_iff_of_other other).mp answers]
    exact ⟨recorded.concat (iff_of_true (inside.concat other) inside),
      .within (HeldBy.of_inside recorded inside).1 other⟩
  | freed inside =>
    rw [← before] at inside
    have held := (HeldBy.of_inside recorded inside).1
    rw [show t.gate = s.gate.release from answers]
    exact ⟨.free held.freed, .freed held⟩

end

/-- What holds of all calls together, wherever they have come to. -/
structure Orderly (calls : κ → Call) (y : System Request (Hall κ) fun _ : κ => Except Failure FireOutcome) :
    Prop where
  course : ∀ c, (calls c).Course (own c y.state.log) (y.code c).result?
  recorded : Recorded calls y.state.log y.state.gate.holder
  turns : ∀ before c e after, y.state.log = before ++ (c, e) :: after → InTurn calls before c e

section

variable {calls : κ → Call} {y : System Request (Hall κ) fun _ : κ => Except Failure FireOutcome}

theorem path_of_reaches (reaches : System.Reaches Passes (begin calls) y) (c : κ) :
    Path (calls c).code (own c y.state.log) (y.code c) := by
  induction reaches with
  | refl => exact .here _
  | tail _ moves ih =>
    cases moves with
    | @quiet d q step =>
      by_cases same : c = d
      · subst same
        simpa using ih.trans step.path
      · simpa [Function.update_of_ne same] using ih
    | @exchange d q e s step passes =>
      simp only [passes.2]
      by_cases same : c = d
      · subst same
        rw [own_concat_self, Function.update_self]
        exact ih.trans step.path
      · rw [own_concat_of_ne same, Function.update_of_ne same]
        exact ih

theorem InTurn.concat {log : List (κ × Exchange Request)} {d : κ} {last : Exchange Request}
    (turns : ∀ before c e after, log = before ++ (c, e) :: after → InTurn calls before c e)
    (turn : InTurn calls log d last) :
    ∀ before c e after, log ++ [(d, last)] = before ++ (c, e) :: after → InTurn calls before c e := by
  intro before c e after same
  rcases List.eq_nil_or_concat after with rfl | ⟨more, final, rfl⟩
  · obtain ⟨rfl, alike⟩ := List.append_inj' same rfl
    cases List.singleton_inj.mp alike
    exact turn
  · rw [List.concat_eq_append, ← List.cons_append, ← List.append_assoc] at same
    exact turns before c e more (List.append_inj' same rfl).1

theorem orderly_of_reaches (reaches : System.Reaches Passes (begin calls) y) : Orderly calls y := by
  have course := fun c => course (path_of_reaches reaches c)
  induction reaches with
  | refl =>
    exact {
      course
      recorded := .free fun _ => not_inside_nil
      turns := fun _ _ _ _ same => absurd same (by simp [begin]) }
  | @tail x y earlier moves ih =>
    have before := ih fun c => Call.course (path_of_reaches earlier c)
    cases moves with
    | quiet step => exact { course, recorded := before.recorded, turns := before.turns }
    | @exchange c q e s step passes =>
      have exchanged : own c s.log = own c x.state.log ++ [e] := by rw [passes.2, own_concat_self]
      have next : (calls c).Next (own c x.state.log) e := (exchanged ▸ course c).next
      obtain ⟨recorded, turn⟩ := before.recorded.step passes next
      exact { course, recorded, turns := passes.2 ▸ InTurn.concat before.turns turn }

end

theorem own_append (c : κ) (first second : List (κ × Exchange Request)) :
    own c (first ++ second) = own c first ++ own c second :=
  List.filterMap_append

theorem InTurn.held {calls : κ → Call} {before : List (κ × Exchange Request)} {c : κ}
    {e : Exchange Request} (turn : InTurn calls before c e)
    (behind : e.request.reach ≠ .turns ∨ frees e = true) : HeldBy c before := by
  cases turn with
  | within held _ => exact held
  | freed held => exact held
  | taken | refused => exact behind.elim (fun other => absurd rfl other) nofun

/-- Nothing of one call's run is exchanged in the middle of another call's run. -/
def Separate (log : List (κ × Exchange Request)) : Prop :=
  ∀ first second third last c d e e' e'',
    log = first ++ (c, e) :: (second ++ (d, e') :: (third ++ (c, e'') :: last)) →
    e.request.reach ≠ .turns → e'.request.reach ≠ .turns → e''.request.reach ≠ .turns → c = d

theorem Orderly.separate {calls : κ → Call}
    {y : System Request (Hall κ) fun _ : κ => Except Failure FireOutcome} (orderly : Orderly calls y) :
    Separate y.state.log := by
  intro first second third last c d e e' e'' same other other' other''
  have begun := ((orderly.turns first c e _ same).held (.inl other) c).mpr rfl
  have between := (orderly.turns (first ++ (c, e) :: second) d e' (third ++ (c, e'') :: last)
    (by simp [same])).held (.inl other')
  have going := ((orderly.turns (first ++ (c, e) :: second ++ (d, e') :: third) c e'' last
    (by simp [same])).held (.inl other'') c).mpr rfl
  -- The first call has come in before its first exchange and has not left before its last one.
  refine (between c).mp ⟨?_, fun x member => going.2 x ?_⟩
  · obtain ⟨x, member, taken⟩ := begun.1
    exact ⟨x, by rw [own_append]; exact List.mem_append_left _ member, taken⟩
  · rw [own_append]
    exact List.mem_append_left _ member

/-- In every order of the single exchanges of the calls, the runs do not overlap, the gate knows
who is inside, who is turned away is told so truly, and the gate is free when a call has left it. -/
theorem fires_take_turns {calls : κ → Call}
    {y : System Request (Hall κ) fun _ : κ => Except Failure FireOutcome}
    (reaches : System.Reaches Passes (begin calls) y) :
    Orderly calls y ∧ Separate y.state.log ∧
      ∀ before c, y.state.log = before ++ [(c, Call.freed)] → y.state.gate.holder = none := by
  have orderly := orderly_of_reaches reaches
  refine ⟨orderly, orderly.separate, fun before c same => ?_⟩
  have held : HeldBy c before := (orderly.turns before c freed [] same).held (.inr rfl)
  have free : Free y.state.log := same ▸ held.freed
  have recorded := orderly.recorded
  generalize y.state.gate.holder = holder at recorded
  cases recorded with
  | free _ => rfl
  | @held d held => exact absurd ((held d).mpr rfl) (free d)

namespace Pair

def setting : Setting := ⟨{}, .conflict⟩

def host : Host := .derive .deployment "web" "web-0" "node"

/-- Two schedules that come due at the same time. -/
def calls (nightly : Bool) : Call :=
  { setting, host, nameSpace := "apps", name := if nightly then "nightly" else "hourly",
    time := Simulation.today }

def cluster (g : Gate) : Simulation.World := { Simulation.World.empty setting host with gate := g }

def serve {β : Type} (c : Bool) (r : Request β) (s : Hall Bool) : β × Hall Bool :=
  let (reply, w) := (cluster s.gate).answer r
  (reply.value, ⟨w.gate, s.log ++ [(c, ⟨r, reply.value⟩)]⟩)

theorem passes_serve {β : Type} (c : Bool) (r : Request β) (s : Hall Bool) :
    Passes c s ⟨r, (serve c r s).1⟩ (serve c r s).2 :=
  ⟨(cluster s.gate).gate_answers r, rfl⟩

/-- The nightly run comes first, and the hourly one asks while it goes on. -/
def met : System Request (Hall Bool) fun _ : Bool => Except Failure FireOutcome :=
  (begin calls).play serve [true, true, false, true]

end Pair

open Pair in
/-- One of them runs, the other one is turned away with its name, and then the gate is free. -/
theorem fires_take_turns_met :
    met.code true = .done (.ok .ran) ∧ met.code false = .done (.ok (.skipped "apps/nightly")) ∧
      Orderly calls met ∧ met.state.gate.holder = none := by
  have turns := fires_take_turns (System.play_reaches passes_serve _ _ : System.Reaches Passes _ met)
  exact ⟨rfl, rfl, turns.1, turns.2.2 _ true rfl⟩

end Cron

end ClusterBackup
