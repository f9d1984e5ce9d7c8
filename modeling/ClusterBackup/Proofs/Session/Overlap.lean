import ClusterBackup.Proofs.Session.Rivals

/-! How often a host runs for one backup session.

A host that has come to its end takes no part again. That does not keep apart two calls that go
on at the same time: each of them may report that the host runs, and then runs. -/

set_option autoImplicit false

universe v

namespace ClusterBackup

open Program Simulation Simulation.Store

namespace Rivals

variable {κ : Type v} {nameSpace name host : String} {s t : Annals κ} {c : κ}
  {e : Exchange Request}

/-- How far a call has come. -/
inductive Stage where
  | waiting
  | begun
  | started

def At (nameSpace name host : String) : Stage → κ → Annals κ → Prop
  | .waiting, c, s => ¬ Did (Begins nameSpace name host) c s.log
  | .begun, c, s => Did (Begins nameSpace name host) c s.log
  | .started, c, s => Did Starts c s.log

def Holding (nameSpace name host : String) (stage : Stage) (c : κ) (s : Annals κ) : Prop :=
  Sound nameSpace name host s ∧ At nameSpace name host stage c s

theorem At.of_own {stage : Stage} (same : own c t = own c s) (here : At nameSpace name host stage c s) :
    At nameSpace name host stage c t := by
  have did (what : Exchange Request → Prop) : Did what c t.log ↔ Did what c s.log :=
    exists_congr fun e => and_congr_left fun _ => iff_of_eq (congrFun same e)
  cases stage with
  | waiting => exact fun begun => here ((did _).mp begun)
  | begun => exact (did _).mpr here
  | started => exact (did _).mpr here

theorem At.records {stage : Stage} (here : At nameSpace name host stage c s)
    (records : Records nameSpace name host c s e t) (quiet : ¬ Begins nameSpace name host e) :
    At nameSpace name host stage c t := by
  have grows {what : Exchange Request → Prop} (did : Did what c s.log) : Did what c t.log := by
    rw [records.2, Did.append]
    exact .inl did
  cases stage with
  | waiting =>
    intro begun
    rw [records.2, Did.append, Did.singleton] at begun
    exact begun.elim here fun last => quiet last.2
  | begun => exact grows here
  | started => exact grows here

theorem Holding.stable (stage : Stage) (c : κ) :
    (terms nameSpace name host c).Stable (Holding nameSpace name host stage c) :=
  fun _ _ later holding => ⟨later.1.2 holding.1, holding.2.of_own later.2⟩

theorem Records.guarantee (records : Records nameSpace name host c s e t)
    (keeps : Sound nameSpace name host s → Sound nameSpace name host t) :
    (terms nameSpace name host c).guarantee s e t :=
  ⟨⟨records.evolves, keeps⟩, fun _ other => records.own_other other⟩

theorem Holding.records {stage : Stage} (holding : Holding nameSpace name host stage c s)
    (records : Records nameSpace name host c s e t)
    (other : e.request.reach ≠ .writing .backupSession)
    (starts : Starts e → Did (Begins nameSpace name host) c s.log) :
    Holding nameSpace name host stage c t :=
  ⟨holding.1.quiet records (.inr other) (records.record?_eq other) starts,
    holding.2.records records fun begins => other begins.writes⟩

theorem ensures_touches {few : List Reach} {α : Type} {p : Program Request α} {stage : Stage}
    (touches : Touches few p) (unwritten : .writing .backupSession ∉ few)
    (ready : .reading .configuration ∉ few ∨ stage ≠ .waiting)
    (holding : Holding nameSpace name host stage c s) :
    Ensures (terms nameSpace name host c) p
      (fun _ t => Holding nameSpace name host stage c t) s := by
  refine Within.ensures (Holding.stable stage c) (fun _ r allowed s reply t holding records => ?_)
    touches holding
  have starts (starts : Starts (⟨r, reply⟩ : Exchange Request)) :
      Did (Begins nameSpace name host) c s.log := by
    rcases ready with unread | begun
    · exact absurd (starts ▸ allowed) unread
    · cases stage with
      | waiting => exact absurd rfl begun
      | begun => exact holding.2
      | started => exact holding.1.begun c holding.2
  have still := holding.records records (fun same => unwritten (same ▸ allowed)) starts
  exact ⟨Records.guarantee records fun _ => still.1, still⟩

/-- Where a call is when its report has come to a result. -/
def Reported (nameSpace name host : String) (before after : Stage) (c : κ) :
    Except Failure (Option BackupSession) × Bool → Annals κ → Prop
  | (.ok (some _), true), s => Holding nameSpace name host after c s
  | (.ok none, _), _ => False
  | _, s => Holding nameSpace name host before c s

theorem Reported.stable {before after : Stage}
    (r : Except Failure (Option BackupSession) × Bool) :
    (terms nameSpace name host c).Stable (Reported nameSpace name host before after c r) := by
  intro s t later reported
  unfold Reported at reported ⊢
  split at reported
  · exact Holding.stable after c s t later reported
  · exact reported
  · exact Holding.stable before c s t later reported

theorem ensures_update {before after : Stage} {r : HostReport} (named : r.entry.host = host)
    (moves : ∀ s e t, Records nameSpace name host c s e t →
      SessionKind.backup.Reported nameSpace name r.entry e → At nameSpace name host before c s →
      At nameSpace name host after c t)
    (holding : Holding nameSpace name host before c s) :
    Ensures (terms nameSpace name host c) ((SessionKind.backup.update r).code nameSpace name)
      (Reported nameSpace name host before after c) s := by
  refine ensures_readChangeWrite (fun _ => Holding nameSpace name host before c)
    (fun _ object t => Holding nameSpace name host before c t ∧ Known nameSpace name object t ∧
      object.nameSpace = nameSpace ∧ object.name = name)
    (fun _ => Holding.stable before c) (fun r => Reported.stable r) ?reads
    (fun _ _ _ here _ => here.1) ?writes (fun _ _ _ here => here) ?sleeps holding
  case reads =>
    intro _ t here
    refine Ensures.ask fun u later reply v records => ?_
    have before := Holding.stable _ c _ _ later here
    have after := before.records records nofun nofun
    refine ⟨Records.guarantee records fun _ => after.1, fun w more => ?_⟩
    have still := Holding.stable _ c _ _ more after
    have ⟨⟨edited, aside, answers⟩, _⟩ := records
    rcases answers with ⟨same, store⟩ | ⟨_, failure, same⟩
    · obtain rfl : reply = .ok (edited.find? .backupSession nameSpace name) := same
      cases found : edited.find? .backupSession nameSpace name with
      | none =>
        -- The session is there, as the calls never lose it and the others leave it alone.
        have present := before.1.present
        rw [← aside.2, record?, found] at present
        cases present
      | some object =>
        have stored : v.store.find? .backupSession nameSpace name = some object := store ▸ found
        have known : Known nameSpace name object v :=
          Watched.Seen.of_object (s := ⟨v.store, []⟩) after.1.numbered stored
        exact ⟨still, known.later more.1.1, find?_key found⟩
    · obtain rfl : reply = _ := same
      exact still
  case writes =>
    rintro _ object t ⟨here, known, key⟩ accepts
    refine Ensures.ask fun u later reply v records => ?_
    have before := Holding.stable _ c _ _ later here
    obtain ⟨sound, outcome⟩ :=
      before.1.write named (known.later later.1.1) key accepts records
    refine ⟨Records.guarantee records fun _ => sound, fun w more => ?_⟩
    rcases outcome with ⟨failure, rfl⟩ | ⟨written, rfl, reported⟩
    · exact Holding.stable _ c _ _ more
        ⟨sound, before.2.records records fun begins => Bool.false_ne_true begins.accepted⟩
    · exact Holding.stable _ c _ _ more ⟨sound, moves u _ v records reported before.2⟩
  case sleeps =>
    intro d _ t reply u here records
    have still := here.records records (fun writes => by cases writes) fun starts => by cases starts
    exact ⟨Records.guarantee records fun _ => still.1, still⟩

/-- A call that has begun has started a run. -/
def Settled (nameSpace name host : String) (c : κ) (s : Annals κ) : Prop :=
  Did (Begins nameSpace name host) c s.log → Did Starts c s.log

theorem Settled.stable (c : κ) :
    (terms nameSpace name host c).Stable (Settled nameSpace name host c) := by
  intro s t later settled begun
  have before : At nameSpace name host .begun c s := At.of_own (s := t) later.2.symm begun
  have started : At nameSpace name host .started c s := settled before
  have still : At nameSpace name host .started c t := At.of_own later.2 started
  exact still

theorem Settled.of_waiting (here : Holding nameSpace name host .waiting c s) :
    Settled nameSpace name host c s :=
  fun begun => absurd begun here.2

theorem Settled.of_started (here : Holding nameSpace name host .started c s) :
    Settled nameSpace name host c s :=
  fun _ => here.2

theorem ensures_reportHost {before : Stage} (after : Stage) {policy : RetryPolicy} {entry : HostEntry}
    (named : entry.host = host)
    (moves : ∀ s e t, Records nameSpace name host c s e t →
      SessionKind.backup.Reported nameSpace name entry e → At nameSpace name host before c s →
      At nameSpace name host after c t)
    (holding : Holding nameSpace name host before c s) :
    Ensures (terms nameSpace name host c)
      (Status.reportHost policy .backup nameSpace name entry none).run
      (fun result t => Holding nameSpace name host
        (match result with | .ok true => after | _ => before) c t) s := by
  refine Ensures.bind ((ensures_update (r := ⟨policy, entry, none⟩) named moves holding).weaken ?_)
  rintro ⟨_ | _ | object, _ | _⟩ t reported u later
  · exact Holding.stable before c t u later reported
  · exact Holding.stable before c t u later reported
  · exact reported.elim
  · exact reported.elim
  · exact Holding.stable before c t u later reported
  · exact Holding.stable after c t u later reported

variable {setting : Setting} {h : Host} {configuration : String} {time : Instant}

theorem ensures_runOnce (holding : Holding nameSpace name host .begun c s) :
    Ensures (terms nameSpace name host c)
      (Backup.runOnce setting h nameSpace configuration time).run
      (fun _ t => Holding nameSpace name host .started c t) s := by
  intro t later reply u records
  have before := Holding.stable _ c _ _ later holding
  have after := before.records records nofun fun _ => before.2
  refine ⟨Records.guarantee records fun _ => after.1, ?_⟩
  have started : At nameSpace name host .started c u := by
    rw [At, records.2, Did.append, Did.singleton]
    exact .inr ⟨rfl, rfl⟩
  have touches : Touches Backup.runReach
      (Backup.runOnce setting h nameSpace configuration time).run :=
    Backup.runOnce_touches setting h nameSpace configuration time
  have holding : Holding nameSpace name host .started c u := ⟨after.1, started⟩
  exact ensures_touches (Within.of_request touches reply) (by decide) (.inr nofun) holding

theorem ensures_then {α β : Type} (few : List Reach) (stage : Stage) {a : Action α}
    {f : α → Action β} {post : Except Failure β → Annals κ → Prop}
    (stable : ∀ result, (terms nameSpace name host c).Stable (post result))
    (touches : a.Touches few) (unwritten : .writing .backupSession ∉ few)
    (unread : .reading .configuration ∉ few)
    (failed : ∀ failure t, Holding nameSpace name host stage c t → post (.error failure) t)
    (rest : ∀ x t, Holding nameSpace name host stage c t →
      Ensures (terms nameSpace name host c) (f x).run post t)
    (holding : Holding nameSpace name host stage c s) :
    Ensures (terms nameSpace name host c) (a >>= f).run post s :=
  .after stable (ensures_touches touches unwritten (.inl unread) holding) failed rest

theorem ensures_tell {α β : Type} (stage : Stage) {r : Request α} {f : α → Action β}
    {post : Except Failure β → Annals κ → Prop} (unwritten : r.reach ≠ .writing .backupSession)
    (unread : r.reach ≠ .reading .configuration)
    (rest : ∀ x t, Holding nameSpace name host stage c t →
      Ensures (terms nameSpace name host c) (f x).run post t)
    (holding : Holding nameSpace name host stage c s) :
    Ensures (terms nameSpace name host c) (Action.tell r >>= f).run post s := by
  intro t later reply u records
  have before := Holding.stable _ c _ _ later holding
  have after := before.records records unwritten fun starts => absurd starts unread
  exact ⟨Records.guarantee records fun _ => after.1, rest reply u after⟩

theorem ensures_share {session : BackupSession} (named : h.name = host)
    (holding : Holding nameSpace name host .begun c s) :
    Ensures (terms nameSpace name host c) (do
        let start ← Action.tell .now
        let time ← Action.tell .calendar
        let result ← Action.attempt (Backup.runOnce setting h nameSpace configuration time)
        let took := (← Backup.elapsedSince start).text
        Backup.announceShare session.reference .backup h.name took result
        let _ ← Status.reportHost setting.policy .backup nameSpace name
          (Backup.finalEntry h.name took result) none
        Action.ofExcept result : Action Unit).run
      (fun _ t => Holding nameSpace name host .started c t) s := by
  have stable (_ : Except Failure Unit) :
      (terms nameSpace name host c).Stable (Holding nameSpace name host .started c) :=
    Holding.stable .started c
  refine ensures_tell .begun nofun nofun (fun start t here => ?_) holding
  refine ensures_tell .begun nofun nofun (fun time t here => ?_) here
  -- From here on the run has started, and nothing that the call does later takes that back.
  have attempted : Ensures (terms nameSpace name host c)
      (Action.attempt (Backup.runOnce setting h nameSpace configuration time)).run
      (fun _ => Holding nameSpace name host .started c) t :=
    Ensures.lift (fun _ => Holding.stable .started c) (ensures_runOnce here)
  refine Ensures.after stable attempted (fun _ _ => id) fun outcome t here => ?_
  refine ensures_then _ .started stable (Backup.elapsedSince_touches start) (by decide)
    (by decide) (fun _ _ => id) (fun took t here => ?_) here
  have announces : (Backup.announceShare session.reference .backup h.name took.text
      outcome).Touches [.events] := by
    cases outcome <;> exact .tell (.head _)
  refine ensures_then _ .started stable announces (by decide) (by decide) (fun _ _ => id)
    (fun _ t here => ?_) here
  have ending : (Backup.finalEntry h.name took.text outcome).host = host := by
    cases outcome <;> exact named
  have remains (s : Annals κ) (e : Exchange Request) (t : Annals κ)
      (records : Records nameSpace name host c s e t)
      (_ : SessionKind.backup.Reported nameSpace name
        (Backup.finalEntry h.name took.text outcome) e)
      (started : At nameSpace name host .started c s) : At nameSpace name host .started c t := by
    rw [At, records.2, Did.append]
    exact .inl started
  refine Ensures.bind_ok stable
    ((ensures_reportHost .started ending remains here).weaken ?_)
  rintro (failure | _ | _) t here
  · exact here
  · exact fun u later => Holding.stable _ c t u later here
  · exact fun u later => Holding.stable _ c t u later here

theorem ensures_runSession (named : h.name = host)
    (holding : Holding nameSpace name host .waiting c s) :
    Ensures (terms nameSpace name host c) (Backup.runSession setting h nameSpace name).run
      (fun _ t => Settled nameSpace name host c t) s := by
  have stable (_ : Except Failure Unit) :
      (terms nameSpace name host c).Stable (Settled nameSpace name host c) := Settled.stable c
  have failed (stage : Stage) (late : stage ≠ .begun) (_ : Failure) (t : Annals κ)
      (here : Holding nameSpace name host stage c t) : Settled nameSpace name host c t := by
    cases stage with
    | waiting => exact .of_waiting here
    | begun => exact absurd rfl late
    | started => exact .of_started here
  refine ensures_then [.reading .backupSession] .waiting stable
    (.ask (.head _)) (by decide) (by decide) (failed _ nofun) (fun session t here => ?_) holding
  cases session with
  | none => exact fun u later => .of_waiting (Holding.stable _ c t u later here)
  | some session =>
    refine ensures_then [.reading .backupSession] .waiting stable
      (.bind (.ask (.head _)) fun _ => .pure _) (by decide) (by decide) (failed _ nofun)
      (fun phase t here => ?_) here
    by_cases ended : phase.any Phase.isTerminal = true
    · rw [if_pos ended]
      exact fun u later => .of_waiting (Holding.stable _ c t u later here)
    rw [if_neg ended]
    have begins (s : Annals κ) (e : Exchange Request) (t : Annals κ)
        (records : Records nameSpace name host c s e t)
        (reported : SessionKind.backup.Reported nameSpace name (Backup.running h) e)
        (_ : At nameSpace name host .waiting c s) : At nameSpace name host .begun c t := by
      rw [At, records.2, Did.append, Did.singleton]
      exact .inr ⟨rfl, named ▸ reported⟩
    refine Ensures.bind_ok stable
      ((ensures_reportHost .begun named begins here).weaken ?_)
    rintro (failure | _ | _) t here
    · exact .of_waiting here
    · exact fun u later => .of_waiting (Holding.stable _ c t u later here)
    · exact (ensures_share named here).weaken fun _ _ => .of_started

/-- One of the calls of a host. -/
structure Call where
  setting : Setting
  host : Host

def begin (calls : κ → Call) (nameSpace name : String) (store : Store) :
    System Request (Annals κ) (fun _ : κ => Except Failure Unit) where
  code c := (Backup.runSession (calls c).setting (calls c).host nameSpace name).run
  state := ⟨store, []⟩

/-- No call begins while another one goes on: all that have begun before have ended. -/
def Separate (nameSpace name host : String) (log : List (κ × Exchange Request)) : Prop :=
  ∀ before c e after, log = before ++ (c, e) :: after → Begins nameSpace name host e →
    ∀ d, d ≠ c → Did (Begins nameSpace name host) d before →
      Did (Ends nameSpace name host) d before

/-- Among calls that are separate one alone begins, as no call begins after an end. -/
theorem Sound.alone {d : κ} (sound : Sound nameSpace name host s)
    (separate : Separate nameSpace name host s.log)
    (first : Did (Begins nameSpace name host) c s.log)
    (second : Did (Begins nameSpace name host) d s.log) : c = d := by
  -- A call begins after another one only when that has ended, and after an end none begins.
  have behind {before after : List (κ × Exchange Request)} {c d : κ} {e : Exchange Request}
      (same : s.log = before ++ (c, e) :: after) (begins : Begins nameSpace name host e)
      (earlier : Did (Begins nameSpace name host) d before) : d = c := by
    by_contra other
    obtain ⟨e', member, ends⟩ := separate before c e after same begins d other earlier
    exact sound.order before (c, e) after same begins (d, e') member ends
  obtain ⟨e, member, begins⟩ := first
  obtain ⟨e', member', begins'⟩ := second
  obtain ⟨before, after, same⟩ := List.append_of_mem member
  rw [same, List.mem_append, List.mem_cons] at member'
  rcases member' with earlier | last | later
  · exact (behind same begins ⟨e', earlier, begins'⟩).symm
  · exact (congrArg Prod.fst last).symm
  · obtain ⟨between, rest, rfl⟩ := List.append_of_mem later
    rw [← List.cons_append, ← List.append_assoc] at same
    exact behind same begins' ⟨e, List.mem_append_right _ List.mem_cons_self, begins⟩

variable [DecidableEq κ] {calls : κ → Call} {store : Store} {initial : BackupSession}
  {y : System Request (Annals κ) fun _ : κ => Except Failure Unit}

/-- In every order of the single exchanges of the calls, at most one of them starts a run if no
call begins while another one goes on. Calls that have all come to their end have started at most
one run only then. -/
theorem starts_once_iff_separate (named : ∀ c, (calls c).host.name = host)
    (numbered : store.IsNumbered)
    (found : store.find? .backupSession nameSpace name = some initial)
    (reaches : System.Reaches (Records nameSpace name host) (begin calls nameSpace name store) y) :
    (Separate nameSpace name host y.state.log →
      ∀ c d, Did Starts c y.state.log → Did Starts d y.state.log → c = d) ∧
    ((∀ c, ∃ result, y.code c = .done result) →
      (∀ c d, Did Starts c y.state.log → Did Starts d y.state.log → c = d) →
      Separate nameSpace name host y.state.log) := by
  have first : Sound nameSpace name host (⟨store, []⟩ : Annals κ) := by
    refine ⟨numbered, by rw [record?_of_found found]; rfl, ?_,
      fun p member => absurd member List.not_mem_nil, ?_⟩
    · rintro c ⟨e, member, _⟩
      exact absurd member List.not_mem_nil
    · intro before p after same
      exact absurd same (by simp)
  -- Every call keeps its contract from the beginning, so the log is sound wherever the calls come.
  have kept : System.Kept (terms nameSpace name host)
      (fun c _ => Settled nameSpace name host c) (begin calls nameSpace name store) := by
    intro c
    refine ensures_runSession (named c) ⟨first, ?_⟩
    rintro ⟨e, member, _⟩
    exact absurd member List.not_mem_nil
  have sound : Sound nameSpace name host y.state :=
    System.Reaches.invariant System.fair_among (fun _ _ _ _ guaranteed => guaranteed.1.2) reaches
      kept first
  refine ⟨fun separate c d started started' =>
    sound.alone separate (sound.begun c started) (sound.begun d started'), ?_⟩
  -- Two calls that overlap have both begun, and whoever has begun has started a run by its end.
  intro ended once before c e after same begins d other earlier
  have settled (c : κ) : Settled nameSpace name host c y.state := by
    obtain ⟨result, done⟩ := ended c
    exact (System.Reaches.kept System.fair_among reaches kept).result done
  have begun : Did (Begins nameSpace name host) c y.state.log :=
    ⟨e, same ▸ List.mem_append_right _ List.mem_cons_self, begins⟩
  have begun' : Did (Begins nameSpace name host) d y.state.log := by
    rw [same, Did.append]
    exact .inl earlier
  exact absurd (once d c (settled d begun') (settled c begun)) other

section

def twins (_ : Bool) : Call := ⟨⟨{}, .conflict⟩, .derive .deployment "web" "web-0" "node"⟩

def serve {β : Type} (c : Bool) (r : Request β) (s : Annals Bool) : β × Annals Bool :=
  let (reply, store) := Store.serve Store.quiet r s.store
  (reply, ⟨store, s.log ++ [(c, ⟨r, reply⟩)]⟩)

theorem records_serve {β : Type} (c : Bool) (r : Request β) (s : Annals Bool) :
    Records "apps" "nightly" "web" c s ⟨r, (serve c r s).1⟩ (serve c r s).2 :=
  ⟨⟨s.store, ⟨.refl _, rfl⟩, .inl (honest_serve quiet r _)⟩, rfl⟩

/-- The second call reports that the host runs before the first one has ended. -/
def race : System Request (Annals Bool) (fun _ : Bool => Except Failure Unit) :=
  (begin twins "apps" "nightly" (Store.accept {} .backupSession Backup.created).2).play serve
    (List.replicate 5 false ++ List.replicate 5 true ++ List.replicate 9 false ++
      List.replicate 9 true)

/-- Both calls have come to their end, and each of them has started a run. -/
theorem starts_once_iff_separate_race :
    (∀ c, ∃ result, race.code c = .done result) ∧ (∀ c, Did Starts c race.state.log) ∧
      ¬ Separate "apps" "nightly" "web" race.state.log := by
  have started (c : Bool) : Did Starts c race.state.log := by
    refine ⟨⟨.get .configuration "apps" "db", .ok none⟩,
      List.mem_of_getElem? (i := if c then 17 else 10) ?_, rfl⟩
    cases c <;> rfl
  refine ⟨fun c => ⟨.ok (), by cases c <;> rfl⟩, started, fun separate => ?_⟩
  have stored : (Store.accept {} .backupSession Backup.created).2.find? .backupSession
      "apps" "nightly" = some (Store.withVersion 1 Backup.created) := by rfl
  have named (c : Bool) : (twins c).host.name = "web" := rfl
  have same : false = true := (starts_once_iff_separate (y := race) named
    (Store.isNumbered_empty.accept Backup.created) stored
    (System.play_reaches records_serve _ _)).1 separate false true (started false) (started true)
  cases same

end

end Rivals

end ClusterBackup
