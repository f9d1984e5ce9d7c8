import ClusterBackup.Proofs.Program.Ending
import ClusterBackup.Proofs.Status.Update
import Mathlib.Data.Set.Card

/-! Reports on one configuration or one repository, by any number of writers at once.

No report is lost and none counts twice: the object is the first one with the reports that
were accepted, in the order of their writes. -/

set_option autoImplicit false

universe v

namespace ClusterBackup

open Program Simulation

/-- One report, with what it tells of the object. -/
inductive Report : ResourceKind → Type where
  | run (started : Instant) (took : Duration) : Report .configuration
  | clearSchedule : Report .configuration
  | repositoryRun (started : Instant) (took : Duration) (removed : Int) : Report .repository
  | check (integrity : Bool) (snapshots : Option Int) (size : Option String) : Report .repository

namespace Resource

def runs : {kind : ResourceKind} → Resource kind → Int
  | .configuration, r => ((r.status : Option ConfigurationStatus).getD {}).count
  | .repository, r => ((r.status : Option RepositoryStatus).getD {}).count
  | _, _ => 0

def firstRun : {kind : ResourceKind} → Resource kind → Option Instant
  | .configuration, r => (r.status : Option ConfigurationStatus).bind (·.first)
  | .repository, r => (r.status : Option RepositoryStatus).bind (·.first)
  | _, _ => none

@[simp] theorem runs_stamped {kind : ResourceKind} (r : Resource kind) (version : Option String) :
    (r.stamped version).runs = r.runs := by
  cases kind <;> rfl

@[simp] theorem firstRun_stamped {kind : ResourceKind} (r : Resource kind)
    (version : Option String) : (r.stamped version).firstRun = r.firstRun := by
  cases kind <;> rfl

end Resource

namespace Report

variable {kind : ResourceKind}

def action (policy : RetryPolicy) (nameSpace name : String) :
    Report kind → Action (Option (Resource kind))
  | .run started took => Status.recordRun policy nameSpace name started took
  | .clearSchedule => Status.clearSchedule policy nameSpace name
  | .repositoryRun started took removed =>
    Status.recordRepositoryRun policy nameSpace name started took removed
  | .check integrity snapshots size =>
    Status.recordCheck policy nameSpace name integrity snapshots size

def change : Report kind → Resource kind → Resource kind × Bool
  | .run started took, config => (Configuration.recordRun started took config, true)
  | .clearSchedule, config => Configuration.clearSchedule config
  | .repositoryRun started took removed, repository =>
    (Repository.recordRun started took removed repository, true)
  | .check integrity snapshots size, repository =>
    (Repository.recordCheck integrity snapshots size repository, true)

def started? : Report kind → Option Instant
  | .run started _ => some started
  | .repositoryRun started _ _ => some started
  | _ => none

def operation : Report kind → String
  | .run .. => "update backup configuration status"
  | .clearSchedule => "reset schedule"
  | .repositoryRun .. => "update repository status"
  | .check .. => "update repository status"

def whole : Report kind → Bool
  | .run .. => false
  | .clearSchedule => true
  | .repositoryRun .. => false
  | .check .. => false

def update (policy : RetryPolicy) (r : Report kind) : Update kind where
  policy := policy
  operation := r.operation
  whole := r.whole
  change := r.change

theorem action_run (policy : RetryPolicy) (nameSpace name : String) (r : Report kind) :
    (r.action policy nameSpace name).run =
      ((r.update policy).code nameSpace name).bind fun x => .done x.1 := by
  cases r <;> rfl

theorem path_update {policy : RetryPolicy} {nameSpace name : String} {r : Report kind}
    {trace : List (Exchange Request)} {found : Except Failure (Option (Resource kind))}
    (path : Path (r.action policy nameSpace name).run trace (.done found)) :
    ∃ flag, Path ((r.update policy).code nameSpace name) trace (.done (found, flag)) := by
  rw [action_run] at path
  obtain ⟨⟨answer, flag⟩, first, second, rfl, updating, ended⟩ := Path.of_bind path
  obtain ⟨rfl, rfl⟩ := Path.of_done ended
  exact ⟨flag, by rwa [List.append_nil]⟩

theorem regular (policy : RetryPolicy) (r : Report kind) : (r.update policy).Regular := by
  cases r with
  | clearSchedule =>
    refine ⟨fun config version => ?_, fun config => ?_, fun config => ?_⟩
    all_goals
      by_cases empty : config.spec.schedule = "" <;>
        simp [Update.apply, update, change, Configuration.clearSchedule, empty, Resource.stamped,
          Resource.nameSpace, Resource.name]
  | _ => exact ⟨fun _ _ => rfl, fun _ => rfl, fun _ => rfl⟩

theorem eq_of_unchanged {r : Report kind} {old object : Resource kind}
    (same : r.change old = (object, false)) : object = old := by
  cases r with
  | clearSchedule =>
    simp only [change, Configuration.clearSchedule] at same
    split at same
    · exact (congrArg Prod.fst same).symm
    · cases same
  | _ => cases same

theorem change_of_started {r : Report kind} (started : r.started?.isSome)
    (object : Resource kind) : (r.change object).2 = true := by
  cases r with
  | clearSchedule => cases started
  | _ => rfl

theorem runs_change (r : Report kind) (object : Resource kind) :
    (r.change object).1.runs = object.runs + if r.started?.isSome then 1 else 0 := by
  cases r with
  | clearSchedule =>
    simp only [change, Configuration.clearSchedule]
    split <;> simp [Resource.runs, started?]
  | _ => simp [change, Configuration.recordRun, Repository.recordRun, Repository.recordCheck,
      Resource.runs, started?]

theorem firstRun_change (r : Report kind) (object : Resource kind) :
    (r.change object).1.firstRun = (object.firstRun <|> r.started?) := by
  cases r with
  | clearSchedule =>
    simp only [change, Configuration.clearSchedule]
    split <;> simp [Resource.firstRun, started?]
  | _ => cases status : object.status with
    | none => simp [change, Configuration.recordRun, Repository.recordRun, Repository.recordCheck,
        Resource.firstRun, started?, status]
    | some s => cases first : s.first <;> simp [change, Configuration.recordRun,
        Repository.recordRun, Repository.recordCheck, Resource.firstRun, started?, status, first]

end Report

namespace Reports

variable {κ : Type v} {kind : ResourceKind}

def applied (report : κ → Report kind) (initial : Resource kind) (writers : List κ) :
    Resource kind :=
  writers.foldl (fun object c => ((report c).change object).1) initial

theorem runs_applied (report : κ → Report kind) (initial : Resource kind) (writers : List κ) :
    (applied report initial writers).runs =
      initial.runs + (writers.filter fun c => (report c).started?.isSome).length := by
  induction writers generalizing initial with
  | nil => simp [applied]
  | cons c rest ih =>
    have later := ih ((report c).change initial).1
    rw [Report.runs_change] at later
    cases counts : (report c).started?.isSome <;> simp [counts, applied] at later ⊢ <;> omega

theorem firstRun_applied (report : κ → Report kind) (initial : Resource kind) (writers : List κ) :
    (applied report initial writers).firstRun =
      (initial.firstRun <|> writers.findSome? fun c => (report c).started?) := by
  induction writers generalizing initial with
  | nil => simp [applied]
  | cons c rest ih =>
    have later := ih ((report c).change initial).1
    rw [Report.firstRun_change] at later
    cases first : initial.firstRun <;> cases started : (report c).started? <;>
      simpa [first, started, applied] using later

variable (policy : κ → RetryPolicy) (report : κ → Report kind) (nameSpace name : String)
  (initial : Resource kind)

/-- Every report is about to begin. Nothing is said of the order of their steps, so a process may
make any number of them, each after the one before has ended. -/
def begin (store : Store) :
    System Request (Ledger κ) (fun _ : κ => Except Failure (Option (Resource kind))) where
  code c := ((report c).action (policy c) nameSpace name).run
  state := ⟨store, []⟩

variable {policy report nameSpace name initial}

theorem begin_eq (store : Store) : begin policy report nameSpace name store =
    Updates.begin (fun c => (report c).update (policy c)) nameSpace name (fun _ r => r.1)
      store := by
  unfold begin Updates.begin
  congr 1
  funext c
  exact (report c).action_run (policy c) nameSpace name

end Reports

section

variable {κ : Type v} {kind : ResourceKind}

/-- What is stored after some steps of some reports, and what their results tell about it. -/
structure Accounted (report : κ → Report kind) (nameSpace name : String) (initial : Resource kind)
    (y : System Request (Ledger κ) fun _ : κ => Except Failure (Option (Resource kind))) :
    Prop where
  once : y.state.accepted.Nodup
  stored : ∃ object, y.state.store.find? kind nameSpace name = some object ∧
    object = (Reports.applied report initial y.state.accepted).stamped
      object.metadata.resourceVersion ∧
    object.firstRun =
      (initial.firstRun <|> y.state.accepted.findSome? fun c => (report c).started?) ∧
    ((∀ c, ∃ result, y.code c = .done result) → object.runs = initial.runs + Set.ncard
      {c | (report c).started?.isSome ∧ ∃ written, y.code c = .done (.ok (some written))})
  written : ∀ c result, y.code c = .done result → c ∈ y.state.accepted →
    ∃ object, result = .ok (some object)
  idle : ∀ c object, y.code c = .done (.ok (some object)) → c ∉ y.state.accepted →
    (report c).change object = (object, false)

variable {policy : κ → RetryPolicy} {report : κ → Report kind} {nameSpace name : String}
  {initial : Resource kind} {store : Store}
  {y : System Request (Ledger κ) fun _ : κ => Except Failure (Option (Resource kind))}

theorem Updates.Outcome.idle {c : κ} {object : Resource kind} {flag : Bool} {s : Ledger κ}
    (outcome : Updates.Outcome (fun c => (report c).update (policy c)) nameSpace name initial c
      (.ok (some object), flag) s) (away : c ∉ s.accepted) :
    (report c).change object = (object, false) := by
  cases flag with
  | true => exact absurd (outcome.accepted.mpr ⟨⟨object, rfl⟩, rfl⟩) away
  | false =>
    obtain ⟨old, unchanged⟩ := outcome.unchanged object rfl
    have same := Report.eq_of_unchanged unchanged
    subst same
    exact unchanged

variable [DecidableEq κ]

/-- A run that is reported is always written, so its report had an answer exactly if it was
accepted. -/
theorem Reports.returned_eq
    (written : ∀ c result, y.code c = .done result → c ∈ y.state.accepted →
      ∃ object, result = .ok (some object))
    (idle : ∀ c object, y.code c = .done (.ok (some object)) → c ∉ y.state.accepted →
      (report c).change object = (object, false))
    (ended : ∀ c, ∃ result, y.code c = .done result) :
    {c | (report c).started?.isSome ∧ ∃ object, y.code c = .done (.ok (some object))} =
      ((y.state.accepted.filter fun c => (report c).started?.isSome).toFinset : Set κ) := by
  ext c
  simp only [Set.mem_ofPred_eq, List.coe_toFinset, List.mem_filter]
  constructor
  · rintro ⟨started, object, answered⟩
    refine ⟨?_, started⟩
    by_cases member : c ∈ y.state.accepted
    · exact member
    · have silent := congrArg Prod.snd (idle c object answered member)
      rw [Report.change_of_started started] at silent
      cases silent
  · rintro ⟨member, started⟩
    obtain ⟨result, answered⟩ := ended c
    obtain ⟨object, rfl⟩ := written c result answered member
    exact ⟨started, object, answered⟩

/-- Reports of any number of writers have a serial order, in every order of their single reads
and writes: that of the accepted writes. -/
theorem reports_accounted (numbered : store.IsNumbered)
    (found : store.find? kind nameSpace name = some initial)
    (reaches : System.Reaches Ledger.Records (Reports.begin policy report nameSpace name store) y) :
    Accounted report nameSpace name initial y := by
  rw [Reports.begin_eq] at reaches
  obtain ⟨serial, outcomes⟩ := Updates.serial_of_reaches
    (fun c => (report c).regular (policy c)) numbered found reaches
  have written (c : κ) (result : Except Failure (Option (Resource kind)))
      (ended : y.code c = .done result) (member : c ∈ y.state.accepted) :
      ∃ object, result = .ok (some object) := by
    obtain ⟨r, rfl, outcome⟩ := outcomes c result ended
    exact (outcome.accepted.mp member).1
  have idle (c : κ) (object : Resource kind) (ended : y.code c = .done (.ok (some object)))
      (away : c ∉ y.state.accepted) : (report c).change object = (object, false) := by
    obtain ⟨⟨result, flag⟩, same, outcome⟩ := outcomes c _ ended
    cases same
    exact outcome.idle away
  obtain ⟨object, n, here, _, _, content⟩ := serial.stored
  refine ⟨serial.once, ⟨object, here, content, ?firstRun, fun ended => ?runs⟩, written, idle⟩
  case firstRun =>
    rw [content, Resource.firstRun_stamped]
    exact Reports.firstRun_applied report initial y.state.accepted
  case runs =>
    rw [Reports.returned_eq written idle ended, Set.ncard_coe_finset,
      List.toFinset_card_of_nodup (serial.once.filter _), content, Resource.runs_stamped]
    exact Reports.runs_applied report initial y.state.accepted

end

namespace Reports

def contested : Configuration :=
  { metadata := Cluster.Metadata.named "apps" "web", spec := { backend := {} } }

/-- Two runs are reported. Both reports read the object, one writes it, and the other one
begins again after a conflict. -/
def race : System Request (Ledger Bool)
    (fun _ : Bool => Except Failure (Option (Resource .configuration))) :=
  (begin (fun _ => .conflict) (fun first => .run ⟨if first then 7 else 5, 0⟩ ⟨0⟩) "apps" "web"
    (Store.accept {} .configuration contested).2).play Ledger.serve
      [true, false, true, false, true, false, false, false, false, false]

end Reports

theorem reports_accounted_race :
    Accounted (fun first => .run ⟨if first then 7 else 5, 0⟩ ⟨0⟩) "apps" "web"
      (Store.withVersion 1 Reports.contested) Reports.race ∧
    Reports.race.state.accepted = [true, false] ∧
    ∀ c, ∃ written, Reports.race.code c = .done (.ok (some written)) := by
  refine ⟨reports_accounted (Store.isNumbered_empty.accept Reports.contested) (by rfl)
    (System.play_reaches Ledger.records_serve _ _), by decide +kernel, fun c => ?_⟩
  cases c <;> exact ⟨_, rfl⟩

end ClusterBackup
