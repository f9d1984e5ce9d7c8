import ClusterBackup.Proofs.Status.Update
import ClusterBackup.Proofs.Store.Evolution

/-! What one program changes of one stored object.

The others may do to the store whatever a store allows. Every exchange of the program itself is
watched: if it changes the object, the object is noted as it was before and as it is then. -/

set_option autoImplicit false

namespace ClusterBackup

open Program Simulation Simulation.Store

/-- The store, and what the program has changed of the object. -/
structure Watched (kind : ResourceKind) where
  store : Store
  changes : List (Option (Resource kind) × Option (Resource kind))

namespace Watched

variable {kind : ResourceKind} (nameSpace name : String)

def object (s : Watched kind) : Option (Resource kind) := s.store.find? kind nameSpace name

/-- The store replies to the program, and a change of the object is noted. -/
def Records (s : Watched kind) (e : Exchange Request) (t : Watched kind) : Prop :=
  s.store.Answers e t.store ∧
    ((t.object nameSpace name = s.object nameSpace name ∧ t.changes = s.changes) ∨
      (t.object nameSpace name ≠ s.object nameSpace name ∧
        t.changes = s.changes ++ [(s.object nameSpace name, t.object nameSpace name)]))

variable (kind) in
def terms : Terms Request (Watched kind) where
  world := Records nameSpace name
  rely s t := s.store.Evolves t.store ∧ t.changes = s.changes
  guarantee _ _ _ := True
  rely_refl _ := ⟨.refl _, rfl⟩
  rely_trans first second := ⟨first.1.trans second.1, second.2.trans first.2⟩

/-- The program has made these changes. -/
structure Kept (changes : List (Option (Resource kind) × Option (Resource kind)))
    (s : Watched kind) : Prop where
  numbered : s.store.IsNumbered
  changes : s.changes = changes

/-- The object was stored at some time; if it is of the version that is stored, then it is what
is stored. -/
def Seen (object : Resource kind) (s : Watched kind) : Prop :=
  ∃ n, object.Numbered n ∧ n ≤ s.store.version ∧
    ∀ stored, s.object nameSpace name = some stored → stored.Numbered n → stored = object

variable {nameSpace name} {changes : List (Option (Resource kind) × Option (Resource kind))}
  {s t : Watched kind} {e : Exchange Request}

theorem Kept.stable (changes : List (Option (Resource kind) × Option (Resource kind))) :
    (terms kind nameSpace name).Stable (Kept changes) :=
  fun _ _ later kept => ⟨IsNumbered.evolves kept.numbered later.1, later.2.trans kept.changes⟩

theorem Seen.stable (object : Resource kind) :
    (terms kind nameSpace name).Stable (Seen nameSpace name object) := by
  rintro s t ⟨evolves, _⟩ ⟨n, numbered, bound, current⟩
  refine ⟨n, numbered, Nat.le_trans bound evolves.version, fun stored found version => ?_⟩
  rcases evolves.objects found with still | ⟨m, newer, later, _⟩
  · exact current stored still version
  · -- What is stored since then has a newer version.
    have same : n = m := version.unique newer
    omega

theorem Seen.of_object {object : Resource kind} (numbered : s.store.IsNumbered)
    (found : s.object nameSpace name = some object) : Seen nameSpace name object s := by
  obtain ⟨n, version, bound⟩ := numbered found
  exact ⟨n, version, bound, fun stored here _ => Option.some.inj (here.symm.trans found)⟩

theorem Records.numbered (records : Records nameSpace name s e t)
    (numbered : s.store.IsNumbered) : t.store.IsNumbered :=
  IsNumbered.evolves numbered records.1.evolves

theorem Records.changes_grow (records : Records nameSpace name s e t) :
    s.changes <+: t.changes := by
  rcases records.2 with ⟨_, same⟩ | ⟨_, more⟩
  · exact same ▸ List.prefix_rfl
  · rw [more]
    exact List.prefix_append _ _

theorem Records.kept (records : Records nameSpace name s e t) (kept : Kept changes s)
    (other : e.request.reach ≠ .writing kind) : Kept changes t := by
  refine ⟨records.numbered kept.numbered, ?_⟩
  rcases records.2 with ⟨_, same⟩ | ⟨differs, _⟩
  · exact same.trans kept.changes
  · exact absurd (records.1.find?_eq other) differs

theorem Records.read {found : Option (Resource kind)}
    (records : Records nameSpace name s ⟨.get kind nameSpace name, .ok found⟩ t) :
    t.object nameSpace name = found := by
  rcases records.1 with ⟨same, store⟩ | ⟨_, _, failed⟩
  · rw [Watched.object, store]
    exact (Except.ok.inj same).symm
  · cases failed

/-- What an update has changed when it has ended with a result. -/
def Outcome (u : Update kind) (changes : List (Option (Resource kind) × Option (Resource kind)))
    (r : Except Failure (Option (Resource kind)) × Bool) (t : Watched kind) : Prop :=
  match r with
  | (.ok (some written), true) => ∃ old, (u.change old).2 = true ∧
      written = (u.apply old).stamped written.metadata.resourceVersion ∧
      Kept (changes ++ [(some old, some written)]) t
  | (.ok (some _), false) => (∃ old, (u.change old).2 = false) ∧ Kept changes t
  | _ => Kept changes t

theorem Outcome.stable (u : Update kind) (r : Except Failure (Option (Resource kind)) × Bool) :
    (terms kind nameSpace name).Stable (Outcome u changes r) := by
  intro s t later outcome
  unfold Outcome at outcome ⊢
  split at outcome
  · obtain ⟨old, tried, content, kept⟩ := outcome
    exact ⟨old, tried, content, Kept.stable _ s t later kept⟩
  · exact ⟨outcome.1, Kept.stable _ s t later outcome.2⟩
  · exact Kept.stable _ s t later outcome

theorem Records.refused {u : Update kind} {object : Resource kind} {failure : Failure}
    (records : Records nameSpace name s ⟨u.write object, .error failure⟩ t)
    (kept : Kept changes s) : Kept changes t := by
  refine ⟨records.numbered kept.numbered, ?_⟩
  rcases Update.replies_write records.1 with ⟨_, _, same⟩ | ⟨_, _, _, impossible, _⟩
  · rcases records.2 with ⟨_, unchanged⟩ | ⟨differs, _⟩
    · exact unchanged.trans kept.changes
    · exact absurd (by rw [Watched.object, same]; rfl) differs
  · cases impossible

theorem Records.write {u : Update kind} (regular : u.Regular) {object : Resource kind}
    {reply : Except Failure (Resource kind)}
    (records : Records nameSpace name s ⟨u.write (u.apply object), reply⟩ t)
    (kept : Kept changes s) (seen : Seen nameSpace name object s)
    (key : object.nameSpace = nameSpace ∧ object.name = name) :
    (∃ failure, reply = .error failure ∧ Kept changes t) ∨
      ∃ written, reply = .ok written ∧
        written = (u.apply object).stamped written.metadata.resourceVersion ∧
        Kept (changes ++ [(some object, some written)]) t := by
  have numbered : t.store.IsNumbered := records.numbered kept.numbered
  rcases Update.replies_write records.1 with ⟨failure, rfl, _⟩ | ⟨old, found, version, rfl, after⟩
  · exact .inl ⟨failure, rfl, records.refused kept⟩
  · rw [regular.nameSpace, regular.name, key.1, key.2] at found
    rw [regular.version] at version
    let written := withVersion (s.store.version + 1) (u.apply object)
    refine .inr ⟨written, rfl, rfl, numbered, ?_⟩
    -- The version is that of the store, so what is changed is what was read.
    obtain ⟨n, seenVersion, bound, current⟩ := seen
    obtain rfl : old = object := current old found (version.trans seenVersion)
    have newest : t.object nameSpace name = some written := by
      have here := find?_accept_self s.store (u.apply old)
      rw [regular.nameSpace, regular.name, key.1, key.2, ← after] at here
      exact here
    rcases records.2 with ⟨same, _⟩ | ⟨_, more⟩
    · have equal : written = old := Option.some.inj (newest.symm.trans (same.trans found))
      have number : written.Numbered (s.store.version + 1) := rfl
      have same : n = s.store.version + 1 := seenVersion.unique (equal ▸ number)
      omega
    · rw [more, kept.changes, newest]
      exact congrArg (fun o => changes ++ [(o, some written)]) found

/-- An update makes one change if it is written, from the object that it has read, and none
otherwise. -/
theorem ensures_update {u : Update kind} (regular : u.Regular) (kept : Kept changes s) :
    Ensures (terms kind nameSpace name) (u.code nameSpace name) (Outcome u changes) s := by
  -- Until a write is accepted nothing has changed, and what was read is known by its version.
  refine ensures_readChangeWrite (fun _ => Kept changes)
    (fun _ object t => Kept changes t ∧ Seen nameSpace name object t ∧
      object.nameSpace = nameSpace ∧ object.name = name)
    (fun _ => Kept.stable changes) (fun r => Outcome.stable u r) ?reads
    (fun _ object _ holding idle => ⟨⟨object, idle⟩, holding.1⟩) ?writes
    (fun _ _ _ kept => kept) ?sleeps kept
  case reads =>
    intro _ t kept
    refine Ensures.ask fun v later reply w records => ⟨trivial, fun x more => ?_⟩
    have here := Kept.stable changes _ _ later kept
    have read := records.kept here nofun
    have still := Kept.stable changes _ _ more read
    rcases reply with failure | _ | object
    · exact still
    · exact still
    · have stored : w.object nameSpace name = some object := records.read
      exact ⟨still, Seen.stable object _ _ more (.of_object read.numbered stored),
        find?_key stored⟩
  case writes =>
    rintro _ object t ⟨kept, seen, key⟩ tried
    refine Ensures.ask fun v later reply w records => ⟨trivial, fun x more => ?_⟩
    have here := Kept.stable changes _ _ later kept
    rcases records.write regular here (Seen.stable object _ _ later seen) key with
      ⟨failure, rfl, same⟩ | ⟨written, rfl, content, changed⟩
    · exact Kept.stable changes _ _ more same
    · exact ⟨object, tried, content, Kept.stable _ _ _ more changed⟩
  case sleeps =>
    intro d _ t reply v kept records
    exact ⟨trivial, records.kept kept nofun⟩

theorem Kept.along_of {trace : List (Exchange Request)} (kept : Kept changes s)
    (along : Along (terms kind nameSpace name) trace s t)
    (each : ∀ e ∈ trace, ∀ s t : Watched kind, Records nameSpace name s e t → Kept changes s →
      Kept changes t) : Kept changes t := by
  induction trace generalizing s with
  | nil => exact Kept.stable changes s t along kept
  | cons e rest ih =>
    obtain ⟨before, after, others, answered, along⟩ := along
    have here := Kept.stable changes s before others kept
    exact ih (each e (.head _) before after answered.1 here) along
      fun e member => each e (.tail _ member)

theorem Kept.along {trace : List (Exchange Request)} (kept : Kept changes s)
    (along : Along (terms kind nameSpace name) trace s t) (apart : Apart (.writing kind) trace) :
    Kept changes t :=
  kept.along_of along fun e member _ _ records kept => records.kept kept (apart e member)

theorem along_prefix {trace : List (Exchange Request)}
    (along : Along (terms kind nameSpace name) trace s t) : s.changes <+: t.changes := by
  induction trace generalizing s with
  | nil => exact along.2 ▸ List.prefix_rfl
  | cons e rest ih =>
    obtain ⟨before, after, others, answered, along⟩ := along
    exact others.2 ▸ answered.1.changes_grow.trans (ih along)

theorem along_numbered {trace : List (Exchange Request)}
    (along : Along (terms kind nameSpace name) trace s t) (numbered : s.store.IsNumbered) :
    t.store.IsNumbered := by
  induction trace generalizing s with
  | nil => exact IsNumbered.evolves numbered along.1
  | cons e rest ih =>
    obtain ⟨before, after, others, answered, along⟩ := along
    exact ih along (answered.1.numbered (IsNumbered.evolves numbered others.1))

theorem along_of_explains {trace : List (Exchange Request)} {store : Store}
    (explains : Explains Answers trace s.store store) :
    ∃ t, Along (terms kind nameSpace name) trace s t ∧ t.store = store := by
  induction trace generalizing s with
  | nil => exact ⟨s, Terms.rely_refl _ s, explains⟩
  | cons e rest ih =>
    obtain ⟨between, answers, explains⟩ := explains
    obtain ⟨after, records, rfl⟩ : ∃ after, Records nameSpace name s e after ∧
        after.store = between := by
      by_cases same : between.find? kind nameSpace name = s.object nameSpace name
      · exact ⟨⟨between, s.changes⟩, ⟨answers, .inl ⟨same, rfl⟩⟩, rfl⟩
      · exact ⟨⟨between, s.changes ++
          [(s.object nameSpace name, between.find? kind nameSpace name)]⟩,
          ⟨answers, .inr ⟨same, rfl⟩⟩, rfl⟩
    obtain ⟨t, along, reached⟩ := ih explains
    exact ⟨t, ⟨s, after, Terms.rely_refl _ s, ⟨records, trivial⟩, along⟩, reached⟩

end Watched

end ClusterBackup
