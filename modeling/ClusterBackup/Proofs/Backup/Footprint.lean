import ClusterBackup.Proofs.Program.Footprint
import ClusterBackup.Proofs.Retry.Contract
import ClusterBackup.Proofs.Store.Evolution
import ClusterBackup.Run.Backup

/-! What the parts of a run reach, and which of them write no repository. -/

set_option autoImplicit false

namespace ClusterBackup

open Program ClusterBackup.Action

theorem SetupPlan.perform_touches (plan : SetupPlan) : plan.perform.Touches [.files] :=
  .bind (.forM fun _ => .ask (.head _)) fun _ => trivial

namespace Tool

theorem run_touches (t : Tool) (arguments : List String) : (t.run arguments).Touches [.tool] :=
  .ask (.head _)

theorem ensure_touches (t : Tool) : t.ensure.Touches [.tool] := by
  refine .bind (.attempt (t.run_touches probe)) fun probed => ?_
  cases probed with
  | ok _ => exact .pure _
  | error _ => exact .bind (t.run_touches create) fun _ => .pure _

theorem runForget_touches (t : Tool) (policy : Retention) (host path : String) :
    (t.runForget policy host path).Touches [.tool] := by
  unfold runForget
  cases forget? policy host path with
  | none => exact .pure _
  | some arguments => exact .bind (t.run_touches arguments) fun _ => .pure _

end Tool

namespace Status

theorem change_touches (policy : RetryPolicy) (operation : String) (kind : ResourceKind)
    (nameSpace name : String) (f : Resource kind → Resource kind × Bool) :
    Touches [.reading kind, .writing kind, .clock]
      (Status.change policy operation kind nameSpace name f) :=
  within_readChangeWrite (.ask (.head _)) (fun _ => .ask (.tail _ (.head _)))
    fun _ => .tail _ (.tail _ (.head _))

theorem reportHost_touches (policy : RetryPolicy) (kind : SessionKind) (nameSpace name : String)
    (entry : HostEntry) (total : Option Int) :
    (reportHost policy kind nameSpace name entry total).Touches
      [.reading kind.resource, .writing kind.resource, .clock] :=
  Within.bind (change_touches policy _ _ _ _ _) fun _ => trivial

theorem recordRun_touches (policy : RetryPolicy) (nameSpace name : String) (started : Instant)
    (took : Duration) : (recordRun policy nameSpace name started took).Touches
      [.reading .configuration, .writing .configuration, .clock] :=
  Within.bind (change_touches policy _ _ _ _ _) fun _ => trivial

theorem recordRepositoryRun_touches (policy : RetryPolicy) (nameSpace name : String)
    (started : Instant) (took : Duration) (removed : Int) :
    (recordRepositoryRun policy nameSpace name started took removed).Touches
      [.reading .repository, .writing .repository, .clock] :=
  Within.bind (change_touches policy _ _ _ _ _) fun _ => trivial

end Status

namespace Backup

theorem elapsedSince_touches (start : Duration) : (elapsedSince start).Touches [.clock] :=
  .bind (.tell (.head _)) fun _ => .pure _

theorem pushMetrics_touches (setting : Setting) (host : Host) (nameSpace name : String)
    (metrics : Metrics) : (pushMetrics setting host nameSpace name metrics).Touches [.metrics] := by
  unfold pushMetrics
  split
  · exact .tell (.head _)
  · exact .pure _

theorem refuse_touches {α : Type} (config : Configuration) (failure : Failure) :
    (refuse config failure : Action α).Touches [.events] :=
  .bind (.tell (.head _)) fun _ => .throw failure

theorem ensureRepository_touches (host : Host) (nameSpace : String) (config : Configuration) :
    (ensureRepository host nameSpace config).Touches
      [.reading .repository, .writing .repository] := by
  refine .bind (.ask (.head _)) fun found => ?_
  cases found with
  | some _ => exact .pure _
  | none =>
    refine .bind (.attempt (.ask (.tail _ (.head _)))) fun made => ?_
    cases made with
    | ok _ => exact .pure _
    | error failure => cases conflict : failure.isConflict <;> simp only [conflict] <;> trivial

theorem runGroup_touches (host : Host) (config : Configuration) (tool : Tool) (group : FileGroup)
    (metrics : Metrics) :
    (runGroup host config tool group metrics).Touches [.tool, .clock, .events] := by
  have asks {α : Type} {a : Action α} (touches : a.Touches [.tool]) :
      a.Touches [.tool, .clock, .events] := touches.mono (by decide)
  have waits (start : Duration) : (elapsedSince start).Touches [.tool, .clock, .events] :=
    (elapsedSince_touches start).mono (by decide)
  refine .bind (.tell (.tail _ (.head _))) fun _ =>
    .bind (.attempt (asks (tool.run_touches _))) fun backup => ?_
  refine .bind (waits _) fun _ => ?_
  -- Both outcomes are told in one event, and the forgetting follows either of them.
  cases backup <;> refine .bind (.tell (.tail _ (.tail _ (.head _)))) fun _ => ?_
  all_goals
    refine .bind (.tell (.tail _ (.head _))) fun _ =>
      .bind (.attempt (asks (tool.runForget_touches _ _ _))) fun forgotten =>
        .bind (waits _) fun _ => ?_
    cases forgotten with
    | ok _ => exact .pure _
    | error _ => exact .bind (.tell (.tail _ (.tail _ (.head _)))) fun _ => .pure _

theorem runGroups_touches (host : Host) (config : Configuration) (tool : Tool)
    (groups : List FileGroup) (metrics : Metrics) (removed : Int) :
    (runGroups host config tool groups metrics removed).Touches [.tool, .clock, .events] := by
  induction groups generalizing metrics removed with
  | nil => exact .pure _
  | cons group rest ih =>
    refine .bind (runGroup_touches host config tool group metrics) fun result => ?_
    rcases result with ⟨metrics, _ | n⟩
    · exact .pure _
    · exact ih metrics _

theorem prepare_touches (setting : Setting) (host : Host) (nameSpace : String)
    (config : Configuration) (secret : Cluster.Secret) :
    (prepare setting host nameSpace config secret).Touches
      [.reading .repository, .writing .repository, .files, .tool] := by
  refine .bind ((ensureRepository_touches host nameSpace config).mono (by decide)) fun _ => ?_
  refine .bind ((SetupPlan.perform_touches _).mono (by decide)) fun _ => ?_
  exact .bind ((Tool.ensure_touches _).mono (by decide)) fun _ => .pure _

/-- All that a run reaches: sessions are not among it. -/
def runReach : List Reach :=
  [.clock, .secrets, .files, .tool, .events, .metrics, .reading .configuration,
    .writing .configuration, .reading .repository, .writing .repository]

theorem runWith_touches (setting : Setting) (host : Host) (nameSpace name : String)
    (time : Instant) (config : Configuration) (secret : Cluster.Secret) :
    (runWith setting host nameSpace name time config secret).Touches runReach := by
  have pushes (metrics : Metrics) :
      (pushMetrics setting host nameSpace name metrics).Touches runReach :=
    (pushMetrics_touches _ _ _ _ _).mono (by decide)
  refine .bind (.tell (.head _)) fun start =>
    .bind (.attempt ((prepare_touches _ _ _ _ _).mono (by decide))) fun prepared => ?_
  rcases prepared with failure | ⟨tool, repository⟩
  · refine .bind (.tell (by simp [runReach, Request.reach])) fun _ =>
      .bind ((elapsedSince_touches _).mono (by decide)) fun _ => ?_
    exact .bind (pushes _) fun _ => .throw _
  · refine .bind ((runGroups_touches _ _ _ _ _ _).mono (by decide)) fun outcome => ?_
    obtain ⟨metrics, result⟩ := outcome
    refine .bind ((elapsedSince_touches _).mono (by decide)) fun took => ?_
    cases result with
    | error failure => exact .bind (pushes _) fun _ => .throw _
    | ok removed =>
      refine .bind ((Status.recordRun_touches _ _ _ _ _).mono (by decide)) fun _ => ?_
      exact .bind ((Status.recordRepositoryRun_touches _ _ _ _ _ _).mono (by decide)) fun _ =>
        pushes _

theorem runOnce_touches (setting : Setting) (host : Host) (nameSpace name : String)
    (time : Instant) : (runOnce setting host nameSpace name time).Touches runReach := by
  refine .bind (.ask (by simp [runReach])) fun config => ?_
  cases config with
  | none => exact .pure _
  | some config =>
    have refuses (failure : Failure) : (refuse config failure : Action Unit).Touches runReach :=
      (refuse_touches config failure).mono (by decide)
    dsimp only
    split
    · exact .pure _
    · split
      · exact refuses _
      · refine .bind (.ask (by simp [runReach, Request.reach])) fun secret => ?_
        cases secret with
        | none => exact refuses _
        | some secret => exact runWith_touches _ _ _ _ _ _ _

end Backup

end ClusterBackup

/-! ### Parts that write no repository -/

namespace ClusterBackup

open Program Simulation Simulation.Store

def Action.IsNeutral {α : Type} (a : Action α) : Prop := Within Neutral a.run

namespace Action

variable {α β : Type}

theorem IsNeutral.throw (failure : Failure) :
    IsNeutral (MonadExcept.throw failure : Action α) := trivial

theorem IsNeutral.bind {x : Action α} {f : α → Action β} (first : x.IsNeutral)
    (rest : ∀ a, (f a).IsNeutral) : (x >>= f).IsNeutral :=
  Within.bind_ok first rest

theorem IsNeutral.ask {r : Request (Except Failure α)} (neutral : Neutral r) :
    (Action.ask r).IsNeutral :=
  Within.ask neutral

theorem IsNeutral.tell {r : Request α} (neutral : Neutral r) : (Action.tell r).IsNeutral :=
  Within.bind (Within.ask neutral) fun _ => trivial

theorem Touches.isNeutral {reach : List Reach} {a : Action α} (touches : a.Touches reach)
    (spares : .writing .repository ∉ reach) : a.IsNeutral := by
  refine Within.mono (fun _ r member => (neutral_iff r).mpr fun same => ?_) touches
  exact spares (same ▸ member)

end Action

theorem SetupPlan.perform_isNeutral (plan : SetupPlan) : plan.perform.IsNeutral :=
  plan.perform_touches.isNeutral (by decide)

theorem Tool.ensure_isNeutral (t : Tool) : t.ensure.IsNeutral :=
  t.ensure_touches.isNeutral (by decide)

namespace Backup

theorem elapsedSince_isNeutral (start : Duration) : (elapsedSince start).IsNeutral :=
  (elapsedSince_touches start).isNeutral (by decide)

theorem pushMetrics_isNeutral (setting : Setting) (host : Host) (nameSpace name : String)
    (metrics : Metrics) : (pushMetrics setting host nameSpace name metrics).IsNeutral :=
  (pushMetrics_touches setting host nameSpace name metrics).isNeutral (by decide)

theorem refuse_isNeutral {α : Type} (config : Configuration) (failure : Failure) :
    (refuse config failure : Action α).IsNeutral :=
  (refuse_touches config failure).isNeutral (by decide)

theorem runGroups_isNeutral (host : Host) (config : Configuration) (tool : Tool)
    (groups : List FileGroup) (metrics : Metrics) (removed : Int) :
    (runGroups host config tool groups metrics removed).IsNeutral :=
  (runGroups_touches host config tool groups metrics removed).isNeutral (by decide)

end Backup

theorem Status.recordRun_isNeutral (policy : RetryPolicy) (nameSpace name : String)
    (started : Instant) (took : Duration) :
    (Status.recordRun policy nameSpace name started took).IsNeutral :=
  (Status.recordRun_touches policy nameSpace name started took).isNeutral (by decide)

end ClusterBackup
