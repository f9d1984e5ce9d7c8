import ClusterBackup.Proofs.Program.Footprint
import ClusterBackup.Proofs.Retry.Contract
import ClusterBackup.Run.Rollout

/-! What the calls for one workload do to it and to its pods.

The client of the workload may fail at any time, and a write whose reply is a failure may have
been accepted all the same. Others write to the workload too, but its key stays, and so does the
selector of its pods. -/

set_option autoImplicit false

namespace ClusterBackup.Rollout

open Cluster Program

/-- Versions of one workload. -/
structure Alike (v w : Workload) : Prop where
  kind : w.kind = v.kind
  nameSpace : w.nameSpace = v.nameSpace
  name : w.name = v.name
  selector : w.selector? = v.selector?

namespace Alike

variable {v w x changed : Workload}

theorem refl (w : Workload) : Alike w w := ⟨rfl, rfl, rfl, rfl⟩

theorem trans (first : Alike v w) (second : Alike w x) : Alike v x :=
  ⟨second.kind.trans first.kind, second.nameSpace.trans first.nameSpace,
    second.name.trans first.name, second.selector.trans first.selector⟩

theorem withPodSpec (w : Workload) (pod : PodSpec) (annotations : Option Dictionary) :
    Alike w { w.withPodSpec pod with metadata := { w.metadata with annotations } } := by
  refine ⟨rfl, rfl, rfl, ?_⟩
  cases spec : w.spec <;> simp [Workload.selector?, Workload.withPodSpec, spec]

theorem add {config : Configuration} {c : Container} {tag : String}
    (added : Sidecar.add w config c tag = .ok changed) : Alike w changed := by
  unfold Sidecar.add at added
  cases spec : Sidecar.podSpec w with
  | error failure =>
    rw [spec] at added
    cases added
  | ok pod =>
    rw [spec] at added
    cases added
    exact .withPodSpec w _ _

theorem remove (removed : Sidecar.remove w = .ok changed) : Alike w changed := by
  unfold Sidecar.remove at removed
  cases spec : Sidecar.podSpec w with
  | error failure =>
    rw [spec] at removed
    cases removed
  | ok pod =>
    rw [spec] at removed
    cases removed
    exact .withPodSpec w _ _

end Alike

/-- What has come of the calls: an accepted replacement has changed the template, or the pods
have been deleted. -/
inductive Happening where
  | edited
  | restarted
  deriving DecidableEq

/-- The workload as it is stored, and what has happened to it by the calls. -/
structure Situation where
  stored : Workload
  history : List Happening

def template? (w : Workload) : Option PodTemplate := w.spec.bind (·.template)

def IsAt (w : Workload) (kind : WorkloadKind) (nameSpace name : String) : Prop :=
  w.kind = kind ∧ w.nameSpace = nameSpace ∧ w.name = name

/-- The pods of a workload are picked by its selector. -/
def PicksPods (w : Workload) (nameSpace text : String) : Prop :=
  w.nameSpace = nameSpace ∧ ∃ selector, w.selector? = some selector ∧ selector.text = .ok text

/-- The history goes on with what has happened, if it has. -/
def Adds (happens : Prop) (what : Happening) (s t : Situation) : Prop :=
  (happens ∧ t.history = s.history ++ [what]) ∨ (¬ happens ∧ t.history = s.history)

/-- The replies of the client to requests about the workload. What is replied to others is of
no account. -/
def Replies (s : Situation) : Exchange Request → Situation → Prop
  | ⟨.workload kind nameSpace name, reply⟩, t =>
    t = s ∧ (IsAt s.stored kind nameSpace name → ∀ w, reply = .ok (some w) → w = s.stored)
  | ⟨.replaceWorkload object, reply⟩, t =>
    (t = s ∧ (IsAt s.stored object.kind object.nameSpace object.name → ∃ failure, reply = .error failure)) ∨
      (Alike object t.stored ∧ Adds (template? t.stored ≠ template? s.stored) .edited s t ∧
        ∀ w, reply = .ok w → w = t.stored)
  | ⟨.deletePods nameSpace text, reply⟩, t =>
    t.stored = s.stored ∧ Adds (PicksPods s.stored nameSpace text ∧ reply = .ok ()) .restarted s t
  | _, t => t = s

def terms : Terms Request Situation where
  world := Replies
  rely s t := Alike s.stored t.stored ∧ t.history = s.history
  guarantee _ _ _ := True
  rely_refl _ := ⟨.refl _, rfl⟩
  rely_trans first second := ⟨first.1.trans second.1, second.2.trans first.2⟩

/-- Requests that leave the workload and its pods as they are. -/
def Quiet : ⦃β : Type⦄ → Request β → Prop
  | _, .replaceWorkload _ => False
  | _, .deletePods .. => False
  | _, _ => True

variable {v w : Workload} {history : List Happening} {s t : Situation}

theorem Replies.of_quiet {β : Type} {r : Request β} {reply : β} (quiet : Quiet r)
    (replies : Replies s ⟨r, reply⟩ t) : t = s := by
  cases r with
  | replaceWorkload object => exact quiet.elim
  | deletePods nameSpace text => exact quiet.elim
  | workload kind nameSpace name => exact replies.1
  | _ => exact replies

/-- The workload is that of the call, and what had happened before has. -/
def Grown (w : Workload) (history : List Happening) (s : Situation) : Prop :=
  Alike w s.stored ∧ history <+: s.history

def Restarted (w : Workload) (history : List Happening) (s : Situation) : Prop :=
  Alike w s.stored ∧ ∃ part, s.history = history ++ (part ++ [.restarted])

/-- A call that does not fail has deleted the pods. -/
def Closed (w : Workload) (history : List Happening) : Except Failure Unit → Situation → Prop
  | .ok (), s => Restarted w history s
  | .error _, s => Grown w history s

theorem Grown.stable (w : Workload) (history : List Happening) :
    terms.Stable (Grown w history) := by
  rintro s t ⟨alike, same⟩ ⟨version, grown⟩
  exact ⟨version.trans alike, same ▸ grown⟩

theorem Restarted.stable (w : Workload) (history : List Happening) :
    terms.Stable (Restarted w history) := by
  rintro s t ⟨alike, same⟩ ⟨version, restarted⟩
  exact ⟨version.trans alike, same ▸ restarted⟩

theorem Closed.stable (w : Workload) (history : List Happening) (result : Except Failure Unit) :
    terms.Stable (Closed w history result) := by
  cases result with
  | ok done => exact Restarted.stable w history
  | error failure => exact Grown.stable w history

theorem Restarted.grown (restarted : Restarted w history s) : Grown w history s := by
  obtain ⟨alike, part, same⟩ := restarted
  exact ⟨alike, same ▸ List.prefix_append history _⟩

theorem Closed.alike {result : Except Failure Unit} (closed : Closed w history result s) :
    Alike w s.stored := by
  cases result with
  | ok done => exact closed.1
  | error failure => exact closed.1

theorem Grown.adds {happens : Prop} {what : Happening} (grown : Grown w history s)
    (alike : Alike w t.stored) (adds : Adds happens what s t) : Grown w history t := by
  refine ⟨alike, ?_⟩
  rcases adds with ⟨_, same⟩ | ⟨_, same⟩
  · rw [same]
    exact grown.2.trans (List.prefix_append _ _)
  · rw [same]
    exact grown.2

theorem ensures_quiet {α : Type} {p : Program Request α} {holds : Situation → Prop}
    (stable : terms.Stable holds) (quiet : Within Quiet p) (first : holds s) :
    Ensures terms p (fun _ t => holds t) s :=
  quiet.ensures stable
    (fun _ _ quiet _ _ _ holds replies => ⟨trivial, Replies.of_quiet quiet replies ▸ holds⟩) first

/-- What a part of a call gives is a version of the workload, if it does not fail. -/
def Version (w : Workload) (history : List Happening) : Except Failure Workload → Situation → Prop
  | .ok object, s => Grown w history s ∧ Alike w object
  | .error _, s => Grown w history s

theorem Version.stable (w : Workload) (history : List Happening)
    (result : Except Failure Workload) : terms.Stable (Version w history result) := by
  intro s t later version
  cases result with
  | ok object => exact ⟨Grown.stable w history s t later version.1, version.2⟩
  | error failure => exact Grown.stable w history s t later version

theorem ensures_reread (grown : Grown w history s) :
    Ensures terms (reread w).run (Version w history) s := by
  intro t later reply u replies
  obtain ⟨rfl, current⟩ := replies
  have here := Grown.stable w history s _ later grown
  refine ⟨trivial, ?_⟩
  rcases reply with failure | _ | found
  · exact fun v more => Grown.stable w history _ v more here
  · exact fun v more => Grown.stable w history _ v more here
  · obtain rfl := current ⟨here.1.kind, here.1.nameSpace, here.1.name⟩ found rfl
    exact fun v more => ⟨Grown.stable w history _ v more here, here.1⟩

theorem ensures_replace {object : Workload} (alike : Alike w object) (grown : Grown w history s) :
    Ensures terms (Action.ask (.replaceWorkload object)).run (Version w history) s := by
  refine Ensures.ask fun t later reply u replies => ⟨trivial, fun v more => ?_⟩
  have here := Grown.stable w history s t later grown
  refine Version.stable w history reply u v more ?_
  rcases replies with ⟨rfl, refused⟩ | ⟨version, adds, written⟩
  · obtain ⟨failure, rfl⟩ := refused ⟨here.1.kind.trans alike.kind.symm,
      here.1.nameSpace.trans alike.nameSpace.symm, here.1.name.trans alike.name.symm⟩
    exact here
  · -- The write is accepted, and the reply may be a failure all the same.
    have grown := here.adds (alike.trans version) adds
    cases reply with
    | error failure => exact grown
    | ok found =>
      obtain rfl := written found rfl
      exact ⟨grown, alike.trans version⟩

theorem ensures_write {a : Action Workload} {change : Workload → Except Failure Workload}
    (changes : ∀ object changed, change object = .ok changed → Alike object changed)
    (taken : Ensures terms a.run (Version w history) s) :
    Ensures terms (do
        let object ← a
        Action.ask (.replaceWorkload (← Action.ofExcept (change object))) : Action Workload).run
      (Version w history) s := by
  refine Ensures.bind_ok (Version.stable w history) (taken.weaken fun result t version => ?_)
  cases result with
  | error failure => exact version
  | ok object =>
    refine Ensures.bind_ok (x := Action.ofExcept (change object)) (Version.stable w history) ?_
    intro u later
    have here := Grown.stable w history t u later version.1
    cases changed : change object with
    | error failure => exact here
    | ok new => exact ensures_replace (version.2.trans (changes object new changed)) here

theorem ensures_edit {r : Rollout} {name : String} {change : Workload → Except Failure Workload}
    (changes : ∀ object changed, change object = .ok changed → Alike object changed)
    (grown : Grown w history s) :
    Ensures terms (r.edit name w change).run (Version w history) s := by
  refine Ensures.bind (ensures_retryConflicts (fun _ => Grown.stable w history)
    (fun _ _ _ later ensures => ensures.later later) ?attempt
    (fun _ _ t here u later => Grown.stable w history t u later here) ?sleeps grown)
  case sleeps =>
    intro d _ t reply u here replies
    obtain rfl : u = t := replies
    exact ⟨trivial, here⟩
  case attempt =>
    intro n _ t here
    -- The first attempt takes the workload as it was given.
    have attempt : Ensures terms (ExceptT.run (m := Program Request) do
        let object ← if n = 1 then pure w else reread w
        Action.ask (.replaceWorkload (← Action.ofExcept (change object))))
        (Version w history) t := by
      by_cases first : n = 1
      · rw [if_pos first]
        exact ensures_write changes fun u later => ⟨Grown.stable w history t u later here, .refl w⟩
      · rw [if_neg first]
        exact ensures_write changes (ensures_reread here)
    refine Ensures.bind (attempt.weaken fun result u version v later => ?_)
    have still := Version.stable w history result u v later version
    have stays (x : Situation) (more : terms.rely v x) : Version w history result x :=
      Version.stable w history result v x more still
    cases result with
    | ok object => exact stays
    | error failure => exact ⟨still, stays⟩

theorem ensures_restartPods {updated : Workload} {selector : LabelSelector}
    (keeps : w.kind.rollsOnTemplateChange = false) (selects : w.selector? = some selector)
    (alike : Alike w updated) (grown : Grown w history s) :
    Ensures terms (restartPods updated).run (Closed w history) s := by
  rw [restartPods, alike.kind, keeps, alike.selector, selects]
  refine Ensures.bind_ok (x := Action.ofExcept selector.text) (Closed.stable w history) ?_
  intro t later
  have here := Grown.stable w history s t later grown
  cases printed : selector.text with
  | error failure => exact here
  | ok text =>
    refine Ensures.ask fun u later reply v replies =>
      ⟨trivial, fun x more => Closed.stable w history reply v x more ?_⟩
    have here := Grown.stable w history t u later here
    obtain ⟨same, adds⟩ := replies
    have version : Alike w v.stored := same ▸ here.1
    cases reply with
    | error failure => exact here.adds version adds
    | ok done =>
      -- The others leave the key and the selector alone, so the pods are those of the workload.
      have picks : PicksPods u.stored updated.nameSpace text :=
        ⟨here.1.nameSpace.trans alike.nameSpace.symm, selector,
          here.1.selector.trans selects, printed⟩
      rcases adds with ⟨_, added⟩ | ⟨missed, _⟩
      · obtain ⟨part, before⟩ := here.2
        exact ⟨version, part, by rw [added, ← before, List.append_assoc]⟩
      · exact absurd ⟨picks, rfl⟩ missed

/-- List calls take this text for the pods of a workload that has a selector. -/
def Names (w : Workload) (text : String) : Prop :=
  ∀ selector, w.selector? = some selector → selector.text = .ok text

theorem names_text {w : Workload} {selector : LabelSelector} {text : String}
    (selects : w.selector? = some selector) (printed : selector.text = .ok text) : Names w text := by
  intro other same
  cases selects.symm.trans same
  exact printed

section

variable {allowed : ⦃β : Type⦄ → Request β → Prop}
  (reads : ∀ kind nameSpace name, allowed (.workload kind nameSpace name))
include reads

theorem within_reread (w : Workload) : Within allowed (reread w).run := by
  refine .bind_ok (.ask (reads _ _ _)) fun found => ?_
  cases found <;> exact trivial

theorem within_await {w : Workload} (lists : ∀ text, Names w text → allowed (.pods w.nameSpace text))
    (now : allowed .now) (sleeps : ∀ time, allowed (.sleep time)) (r : Rollout) (wanted : Bool) :
    Within allowed (r.await w wanted).run := by
  have settled (text : String) (named : Names w text) :
      Within allowed (isSettled w text wanted).run := by
    refine .bind_ok (within_reread reads w) fun current => ?_
    by_cases rolled : current.isRolledOut = true
    · simp only [rolled]
      exact .bind_ok (.ask (lists text named)) fun pods => trivial
    · simp only [rolled]
      exact trivial
  have polls (text : String) (named : Names w text) :
      Within allowed (pollUntil r.timeout r.interval
        (w.describe ++ " did not roll out within " ++ r.timeout.describe)
        (isSettled w text wanted).run) :=
    within_pollUntil (settled text named) now sleeps
  rw [await]
  cases selects : w.selector? with
  | none => exact polls "" fun selector same => nomatch selects.symm.trans same
  | some selector =>
    dsimp only
    cases printed : selector.text with
    | error failure => exact trivial
    | ok text => exact polls text (names_text selects printed)

end

theorem quiet_await (r : Rollout) (w : Workload) (wanted : Bool) :
    Within Quiet (r.await w wanted).run :=
  within_await (fun _ _ _ => trivial) (fun _ _ => trivial) trivial (fun _ => trivial) r wanted

theorem ensures_work {r : Rollout} {name : String} {change : Workload → Except Failure Workload}
    {selector : LabelSelector} {wanted : Bool} (keeps : w.kind.rollsOnTemplateChange = false)
    (selects : w.selector? = some selector)
    (changes : ∀ object changed, change object = .ok changed → Alike object changed)
    (grown : Grown w history s) :
    Ensures terms (do
        let updated ← r.edit name w change
        restartPods updated
        r.await updated wanted : Action Unit).run (Closed w history) s := by
  refine Ensures.bind_ok (Closed.stable w history)
    ((ensures_edit changes grown).weaken fun result t version => ?_)
  cases result with
  | error failure => exact version
  | ok updated =>
    refine Ensures.bind_ok (Closed.stable w history)
      ((ensures_restartPods keeps selects version.2 version.1).weaken fun result u closed => ?_)
    cases result with
    | error failure => exact closed
    | ok done =>
      refine (ensures_quiet (Restarted.stable w history) (quiet_await r updated wanted)
        closed).weaken fun result v restarted => ?_
      cases result with
      | ok done => exact restarted
      | error failure => exact restarted.grown

/-- The calls that put the sidecar into the pods and take it out again. -/
inductive Errand where
  | adding (config : Configuration)
  | removing

namespace Errand

def run (r : Rollout) (w : Workload) : Errand → Action Unit
  | .adding config => r.ensure w config
  | .removing => r.ensureRemoved w

/-- The annotation of the workload says that there is nothing to do. -/
def IsIdle (w : Workload) : Errand → Prop
  | .adding config => w.annotation? Sidecar.ownerAnnotation = some config.name
  | .removing => w.annotation? Sidecar.ownerAnnotation = none

instance (w : Workload) (errand : Errand) : Decidable (errand.IsIdle w) := by
  cases errand <;> exact inferInstanceAs (Decidable (_ = _))

end Errand

theorem ensures_publish {a : Action Unit} {notice : Notice} {object : Cluster.Reference}
    (work : Ensures terms a.run (Closed w history) s) :
    Ensures terms (do
        let result ← Action.attempt a
        notice.publish object result : Action Unit).run (Closed w history) s := by
  refine Ensures.bind (Ensures.bind (work.weaken fun result t closed u later => ?_))
  have here := Closed.stable w history result t u later closed
  have tells (event : Event) : Ensures terms (do
      Action.tell (.publish event)
      Action.ofExcept result : Action Unit).run (Closed w history) u := by
    intro v later reply x replies
    obtain rfl : x = v := replies
    have here := Closed.stable w history result u x later here
    exact ⟨trivial, fun y more => Closed.stable w history result x y more here⟩
  cases result <;> exact tells _

/-- A call that has something to do deletes the pods before it succeeds. -/
theorem ensures_run {errand : Errand} {r : Rollout} {selector : LabelSelector}
    (keeps : w.kind.rollsOnTemplateChange = false) (selects : w.selector? = some selector)
    (busy : ¬ errand.IsIdle w) (grown : Grown w history s) :
    Ensures terms (errand.run r w).run (Closed w history) s := by
  cases errand with
  | adding config =>
    have busy : ¬ w.annotation? Sidecar.ownerAnnotation = some config.name := busy
    rw [Errand.run, ensure, if_neg busy]
    refine ensures_publish ?_
    have missing (failure : Failure) : Ensures terms (throw failure : Action Unit).run
        (Closed w history) s := fun t later => Grown.stable w history s t later grown
    rw [add]
    by_cases unnamed : config.spec.backend.secretName = ""
    · rw [if_pos unnamed]
      exact missing _
    rw [if_neg unnamed]
    refine Ensures.after (Closed.stable w history)
      (ensures_quiet (Grown.stable w history) (.ask trivial) grown) (fun _ _ here => here)
      fun secret t here => ?_
    by_cases absent : secret.isNone = true
    · rw [if_pos absent]
      exact fun u later => Grown.stable w history t u later here
    · rw [if_neg absent]
      exact ensures_work keeps selects (fun _ _ => Alike.add) here
  | removing =>
    rw [Errand.run, ensureRemoved]
    cases owner : w.annotation? Sidecar.ownerAnnotation with
    | none => exact absurd owner busy
    | some owner => exact ensures_publish (ensures_work keeps selects (fun _ _ => Alike.remove) grown)

theorem run_of_idle {errand : Errand} {r : Rollout} (idle : errand.IsIdle w) :
    errand.run r w = pure () := by
  cases errand with
  | adding config => exact if_pos idle
  | removing =>
    have idle : w.annotation? Sidecar.ownerAnnotation = none := idle
    rw [Errand.run, ensureRemoved, idle]

end ClusterBackup.Rollout
