import ClusterBackup.Proofs.Program.Interleaving
import ClusterBackup.Proofs.Retry.Contract
import ClusterBackup.Proofs.Store.Answers
import ClusterBackup.Status

/-! Updates of one object by many writers at once.

Every update reads the object, changes it and writes it back, and tries again after a
conflict. Whatever the order of the single reads and writes, the stored object is the first
one with the changes of the accepted writes applied in the order of these writes. -/

set_option autoImplicit false

universe v

namespace ClusterBackup

open Program Simulation Simulation.Store

/-- One change of an object, to be written against other writers. -/
structure Update (kind : ResourceKind) where
  policy : RetryPolicy
  operation : String
  /-- Whether the object is replaced as a whole, or its status. -/
  whole : Bool
  change : Resource kind → Resource kind × Bool

namespace Update

variable {kind : ResourceKind}

def write (u : Update kind) (object : Resource kind) : Request (Except Failure (Resource kind)) :=
  if u.whole then .replace kind object else .replaceStatus kind object

def code (u : Update kind) (nameSpace name : String) :
    Program Request (Except Failure (Option (Resource kind)) × Bool) :=
  readChangeWrite u.policy u.operation (Program.ask (.get kind nameSpace name))
    (fun object => Program.ask (u.write object)) u.change

def apply (u : Update kind) (object : Resource kind) : Resource kind := (u.change object).1

/-- The change neither looks at the version of the object nor renames the object. -/
structure Regular (u : Update kind) : Prop where
  stamped : ∀ object version,
    u.change (object.stamped version) = ((u.change object).1.stamped version, (u.change object).2)
  nameSpace : ∀ object, (u.apply object).nameSpace = object.nameSpace
  name : ∀ object, (u.apply object).name = object.name

theorem Regular.apply_stamped {u : Update kind} (regular : u.Regular) (object : Resource kind)
    (version : Option String) :
    u.apply (object.stamped version) = (u.apply object).stamped version :=
  congrArg Prod.fst (regular.stamped object version)

theorem Regular.version {u : Update kind} (regular : u.Regular) (object : Resource kind) :
    (u.apply object).metadata.resourceVersion = object.metadata.resourceVersion := by
  have same := regular.apply_stamped object object.metadata.resourceVersion
  rw [Resource.stamped_self] at same
  rw [same, Resource.stamped_version]

theorem Regular.replaces {u : Update kind} (regular : u.Regular) {store : Store}
    {nameSpace name : String} {object : Resource kind}
    (found : store.find? kind nameSpace name = some object) :
    store.replace kind (u.apply object) =
      (.ok (store.accept kind (u.apply object)).1, (store.accept kind (u.apply object)).2) := by
  obtain ⟨inSpace, named⟩ := find?_key found
  have here : store.find? kind (u.apply object).nameSpace (u.apply object).name = some object := by
    rw [regular.nameSpace, regular.name, inSpace, named, found]
  exact replace_of_current here (regular.version object).symm

theorem isAccepted_write (u : Update kind) (object : Resource kind)
    (reply : Except Failure (Resource kind)) :
    isAccepted ⟨u.write object, reply⟩ = reply.isOk := by
  rw [write]
  cases u.whole <;> rfl

theorem replies_write {u : Update kind} {object : Resource kind}
    {reply : Except Failure (Resource kind)} {s t : Store}
    (answers : s.Answers ⟨u.write object, reply⟩ t) :
    (∃ failure, reply = .error failure ∧ t = s) ∨
      ∃ old, s.find? kind object.nameSpace object.name = some old ∧
        old.metadata.resourceVersion = object.metadata.resourceVersion ∧
        reply = .ok (withVersion (s.version + 1) object) ∧ t = (s.accept kind object).2 := by
  -- A write of the status and one of the whole object have the same replies.
  have replies : (reply, t) = s.replace kind object ∨
      t = s ∧ ∃ failure, reply = .error failure := by
    rw [write] at answers
    generalize u.whole = whole at answers
    cases whole <;> exact answers
  rcases replies with replaced | ⟨rfl, failure, rfl⟩
  · have cases := replace_replaced s object
    rw [← replaced] at cases
    cases cases with
    | missing | stale => exact .inl ⟨_, rfl, rfl⟩
    | accepted found same => exact .inr ⟨_, found, same, rfl, rfl⟩
  · exact .inl ⟨failure, rfl, rfl⟩

end Update

/-- The store, and whose writes it has accepted in which order. -/
structure Ledger (κ : Type v) where
  store : Store
  accepted : List κ

/-- The store replies to one of the writers. -/
def Ledger.Records {κ : Type v} (c : κ) (s : Ledger κ) (e : Exchange Request) (t : Ledger κ) :
    Prop :=
  s.store.Answers e t.store ∧
    t.accepted = if Store.isAccepted e then s.accepted ++ [c] else s.accepted

def Ledger.serve {κ : Type v} {β : Type} (c : κ) (r : Request β) (s : Ledger κ) : β × Ledger κ :=
  let (reply, store) := Store.serve Store.quiet r s.store
  (reply, ⟨store, if Store.accepts r reply then s.accepted ++ [c] else s.accepted⟩)

theorem Ledger.records_serve {κ : Type v} {β : Type} (c : κ) (r : Request β) (s : Ledger κ) :
    Ledger.Records c s ⟨r, (Ledger.serve c r s).1⟩ (Ledger.serve c r s).2 :=
  ⟨.inl (honest_serve quiet r s.store), rfl⟩

/-- What is accepted stays so, in the order of its writes. -/
theorem Ledger.accepted_prefix {κ : Type v} [DecidableEq κ] {β : κ → Type}
    {x y : System Request (Ledger κ) β} (reaches : System.Reaches Ledger.Records x y) :
    x.state.accepted <+: y.state.accepted := by
  induction reaches with
  | refl => exact List.prefix_rfl
  | tail _ moves ih =>
    cases moves with
    | quiet step => exact ih
    | exchange step answered =>
      refine ih.trans ?_
      rw [answered.2]
      split
      · exact List.prefix_append _ _
      · exact List.prefix_rfl

namespace Updates

variable {κ : Type v} {kind : ResourceKind}

def fold (updates : κ → Update kind) (initial : Resource kind) (writers : List κ) : Resource kind :=
  writers.foldl (fun object c => (updates c).apply object) initial

variable (updates : κ → Update kind) (nameSpace name : String) (initial : Resource kind)

/-- Up to its version, the stored object is what the accepted changes make of the first one. -/
structure Serial (s : Ledger κ) : Prop where
  once : s.accepted.Nodup
  stored : ∃ object n, s.store.find? kind nameSpace name = some object ∧ object.Numbered n ∧
    n ≤ s.store.version ∧
    object = (fold updates initial s.accepted).stamped object.metadata.resourceVersion

/-- An object as the store has it, or as it had it before a newer version. -/
def Known (object : Resource kind) (s : Ledger κ) : Prop :=
  ∃ n, object.Numbered n ∧ (s.store.find? kind nameSpace name = some object ∨
    ∃ newer m, s.store.find? kind nameSpace name = some newer ∧ newer.Numbered m ∧ n < m)

/-- What any writer may do to the store. -/
def Later (s t : Ledger κ) : Prop :=
  Serial updates nameSpace name initial s → Serial updates nameSpace name initial t ∧
    ∀ object : Resource kind, Known nameSpace name object s → Known nameSpace name object t

theorem Later.refl (s : Ledger κ) : Later updates nameSpace name initial s s :=
  fun serial => ⟨serial, fun _ known => known⟩

variable {updates nameSpace name initial} in
theorem Later.trans {s t u : Ledger κ} (first : Later updates nameSpace name initial s t)
    (second : Later updates nameSpace name initial t u) :
    Later updates nameSpace name initial s u := by
  intro serial
  obtain ⟨middle, keeps⟩ := first serial
  obtain ⟨last, keepsToo⟩ := second middle
  exact ⟨last, fun object known => keepsToo object (keeps object known)⟩

/-- A writer relies on the others not to write in its name. -/
def terms : κ → Terms Request (Ledger κ) :=
  .among Ledger.Records (Later updates nameSpace name initial)
    (Later.refl updates nameSpace name initial) Later.trans fun c s => c ∈ s.accepted

/-- What a writer knows when its update has ended. -/
structure Outcome (c : κ) (r : Except Failure (Option (Resource kind)) × Bool) (s : Ledger κ) :
    Prop where
  serial : Serial updates nameSpace name initial s
  accepted : c ∈ s.accepted ↔ (∃ object, r.1 = .ok (some object)) ∧ r.2 = true
  unchanged : ∀ object, r = (.ok (some object), false) →
    ∃ old, (updates c).change old = (object, false)

def Ready (c : κ) (s : Ledger κ) : Prop :=
  Serial updates nameSpace name initial s ∧ c ∉ s.accepted

def Holding (c : κ) (object : Resource kind) (s : Ledger κ) : Prop :=
  Ready updates nameSpace name initial c s ∧ Known nameSpace name object s ∧
    object.nameSpace = nameSpace ∧ object.name = name

variable {updates nameSpace name initial}

theorem fold_append (first second : List κ) :
    fold updates initial (first ++ second) = fold updates (fold updates initial first) second := by
  simp [fold]

theorem Known.of_found {object : Resource kind} {n : Nat} {s : Ledger κ}
    (found : s.store.find? kind nameSpace name = some object) (numbered : object.Numbered n) :
    Known nameSpace name object s :=
  ⟨n, numbered, .inl found⟩

theorem Known.current {object old : Resource kind} {s : Ledger κ}
    (known : Known nameSpace name object s) (found : s.store.find? kind nameSpace name = some old)
    (same : old.metadata.resourceVersion = object.metadata.resourceVersion) : old = object := by
  obtain ⟨n, numbered, here | ⟨newer, m, foundNewer, numberedNewer, less⟩⟩ := known
  · exact Option.some.inj (found.symm.trans here)
  · obtain rfl := Option.some.inj (found.symm.trans foundNewer)
    have equal : n = m := numbered.unique (same.symm.trans numberedNewer)
    exact absurd less (equal ▸ Nat.lt_irrefl n)

theorem Serial.number_le {s : Ledger κ} {object : Resource kind} {n : Nat}
    (serial : Serial updates nameSpace name initial s)
    (found : s.store.find? kind nameSpace name = some object) (numbered : object.Numbered n) :
    n ≤ s.store.version := by
  obtain ⟨stored, m, here, numberedHere, bound, _⟩ := serial.stored
  obtain rfl := Option.some.inj (here.symm.trans found)
  exact numbered.unique numberedHere ▸ bound

theorem Holding.accepted {c : κ} {s t : Ledger κ} {object old : Resource kind}
    (regular : (updates c).Regular) (holding : Holding updates nameSpace name initial c object s)
    (found : s.store.find? kind nameSpace name = some old)
    (same : old.metadata.resourceVersion = object.metadata.resourceVersion)
    (store : t.store = (s.store.accept kind ((updates c).apply object)).2)
    (ledger : t.accepted = s.accepted ++ [c]) :
    Serial updates nameSpace name initial t ∧
      ∀ other : Resource kind, Known nameSpace name other s → Known nameSpace name other t := by
  obtain ⟨⟨serial, fresh⟩, known, inSpace, named⟩ := holding
  -- The version is that of the store, so nobody has written since the object was read.
  have current : old = object := known.current found same
  subst current
  let written := withVersion (s.store.version + 1) ((updates c).apply old)
  have newest : t.store.find? kind nameSpace name = some written := by
    have here := find?_accept_self s.store ((updates c).apply old)
    rwa [← store, regular.nameSpace, regular.name, inSpace, named] at here
  have version : t.store.version = s.store.version + 1 := by rw [store]; rfl
  have numbered : written.Numbered (s.store.version + 1) := rfl
  refine ⟨⟨?_, written, _, newest, numbered, Nat.le_of_eq version.symm, ?_⟩, ?_⟩
  · rw [ledger]
    exact List.nodup_append.mpr ⟨serial.once, by simp, by
      rintro a member b here rfl
      exact fresh (List.mem_singleton.mp here ▸ member)⟩
  · obtain ⟨stored, n, here, _, _, content⟩ := serial.stored
    obtain rfl := Option.some.inj (here.symm.trans found)
    rw [ledger, fold_append]
    calc written
        = ((updates c).apply stored).stamped written.metadata.resourceVersion := rfl
      _ = ((updates c).apply (fold updates initial s.accepted)).stamped
            written.metadata.resourceVersion := by
          rw [content, regular.apply_stamped, Resource.stamped_stamped]
  · -- Whatever others have read is older than what is written now.
    rintro other ⟨n, numberedOther, here | ⟨newer, m, here, numberedNewer, less⟩⟩
    · have bound := serial.number_le here numberedOther
      exact ⟨n, numberedOther, .inr ⟨written, _, newest, numbered, by omega⟩⟩
    · have bound := serial.number_le here numberedNewer
      exact ⟨n, numberedOther, .inr ⟨written, _, newest, numbered, by omega⟩⟩

theorem Holding.write {c : κ} {s t : Ledger κ} {object : Resource kind}
    {reply : Except Failure (Resource kind)} (regular : (updates c).Regular)
    (holding : Holding updates nameSpace name initial c object s)
    (answered : Ledger.Records c s ⟨(updates c).write ((updates c).apply object), reply⟩ t) :
    (∃ failure, reply = .error failure ∧ t = s) ∨
      (∃ written, reply = .ok written ∧ t.accepted = s.accepted ++ [c] ∧
        Serial updates nameSpace name initial t ∧
        ∀ other : Resource kind, Known nameSpace name other s → Known nameSpace name other t) := by
  obtain ⟨answers, records⟩ := answered
  obtain ⟨store, accepted⟩ := t
  have listed : accepted = if reply.isOk then s.accepted ++ [c] else s.accepted :=
    (Update.isAccepted_write _ _ reply) ▸ records
  rcases Update.replies_write answers with ⟨failure, rfl, rfl⟩ | ⟨old, found, same, rfl, rfl⟩
  · exact .inl ⟨failure, rfl, by cases s; cases listed; rfl⟩
  · rw [regular.nameSpace object, regular.name object, holding.2.2.1, holding.2.2.2] at found
    rw [regular.version] at same
    exact .inr ⟨_, rfl, listed, holding.accepted regular found same rfl listed⟩

theorem guarantee_refl (c : κ) (s : Ledger κ) (e : Exchange Request) :
    (terms updates nameSpace name initial c).guarantee s e s :=
  ⟨Later.refl _ _ _ _ s, fun _ _ => rfl⟩

theorem Ready.stable (c : κ) :
    (terms updates nameSpace name initial c).Stable (Ready updates nameSpace name initial c) :=
  fun _ _ later ready => ⟨(later.1 ready.1).1, fun member => ready.2 (later.2.mp member)⟩

theorem Outcome.stable (c : κ) (r : Except Failure (Option (Resource kind)) × Bool) :
    (terms updates nameSpace name initial c).Stable
      (Outcome updates nameSpace name initial c r) :=
  fun _ _ later outcome =>
    ⟨(later.1 outcome.serial).1, (iff_of_eq later.2).trans outcome.accepted, outcome.unchanged⟩

theorem records_get {c : κ} {s t : Ledger κ} {reply : Except Failure (Option (Resource kind))}
    (answered : Ledger.Records c s ⟨.get kind nameSpace name, reply⟩ t) :
    t = s ∧
      ((∃ failure, reply = .error failure) ∨ reply = .ok (s.store.find? kind nameSpace name)) := by
  obtain ⟨store, accepted⟩ := t
  rcases answered with ⟨⟨rfl, rfl⟩ | ⟨rfl, failed⟩, rfl⟩
  · exact ⟨rfl, .inr rfl⟩
  · exact ⟨rfl, .inl failed⟩

theorem records_sleep {c : κ} {s t : Ledger κ} {d : Duration} {reply : Unit}
    (answered : Ledger.Records c s ⟨.sleep d, reply⟩ t) : t = s := by
  obtain ⟨store, accepted⟩ := t
  rcases answered with ⟨rfl | ⟨_, failed⟩, rfl⟩
  · rfl
  · exact failed.elim

theorem Ready.failed {c : κ} {s : Ledger κ} (ready : Ready updates nameSpace name initial c s)
    (failure : Failure) (flag : Bool) :
    Outcome updates nameSpace name initial c (.error failure, flag) s := by
  refine ⟨ready.1, iff_of_false ready.2 ?_, fun object impossible => ?_⟩
  · rintro ⟨⟨object, impossible⟩, _⟩
    cases impossible
  · cases impossible

theorem Ready.idle {c : κ} {s : Ledger κ} (ready : Ready updates nameSpace name initial c s)
    {object : Resource kind} (idle : ((updates c).change object).2 = false) :
    Outcome updates nameSpace name initial c (.ok (some ((updates c).change object).1), false)
      s := by
  refine ⟨ready.1, iff_of_false ready.2 fun written => Bool.noConfusion written.2, ?_⟩
  intro result same
  obtain rfl := Option.some.inj (Except.ok.inj (congrArg Prod.fst same))
  exact ⟨object, Prod.ext rfl idle⟩

theorem ensures_code {c : κ} {s : Ledger κ} (regular : (updates c).Regular)
    (ready : Ready updates nameSpace name initial c s) :
    Ensures (terms updates nameSpace name initial c) ((updates c).code nameSpace name)
      (Outcome updates nameSpace name initial c) s := by
  refine ensures_readChangeWrite (fun _ => Ready updates nameSpace name initial c)
    (fun _ => Holding updates nameSpace name initial c) (fun _ => Ready.stable c) (Outcome.stable c)
    ?reads (fun _ _ _ holding idle => holding.1.idle idle) ?writes
    (fun flag failure _ ready => ready.failed failure flag) ?sleeps ready
  case reads =>
    intro _ t ready
    refine Ensures.ask fun u later reply v answered => ?_
    obtain ⟨rfl, failed | found⟩ := records_get answered
    · obtain ⟨failure, rfl⟩ := failed
      exact ⟨guarantee_refl c _ _, fun w more =>
        Ready.stable c _ _ more (Ready.stable c _ _ later ready)⟩
    · subst found
      have here := Ready.stable c _ _ later ready
      refine ⟨guarantee_refl c _ _, fun w more => ?_⟩
      have still := Ready.stable c _ _ more here
      obtain ⟨stored, n, found, numbered, _, _⟩ := here.1.stored
      rw [found]
      exact ⟨still, (more.1 here.1).2 stored (.of_found found numbered), find?_key found⟩
  case writes =>
    intro _ object t holding _
    refine Ensures.ask fun u later reply v answered => ?_
    -- What was read may be outdated by now. Its version tells the store so.
    have still : Holding updates nameSpace name initial c object u :=
      ⟨Ready.stable c _ _ later holding.1, (later.1 holding.1.1).2 object holding.2.1, holding.2.2⟩
    rcases still.write regular answered with
      ⟨failure, rfl, rfl⟩ | ⟨written, rfl, ledger, serial, keeps⟩
    · exact ⟨guarantee_refl c _ _, fun w more => Ready.stable c _ _ more still.1⟩
    · refine ⟨⟨fun _ => ⟨serial, keeps⟩, fun d other => ?_⟩, fun w more => ?_⟩
      · simp [ledger, other]
      · refine Outcome.stable c _ _ _ more ⟨serial, ?_, ?_⟩
        · simp [ledger]
        · intro object equal
          cases equal
  case sleeps =>
    intro d _ t reply u ready answered
    obtain rfl := records_sleep answered
    exact ⟨guarantee_refl c _ _, ready⟩

section

variable [DecidableEq κ] {β : κ → Type}

def begin (updates : κ → Update kind) (nameSpace name : String)
    (finish : (c : κ) → Except Failure (Option (Resource kind)) × Bool → β c) (store : Store) :
    System Request (Ledger κ) β where
  code c := ((updates c).code nameSpace name).bind fun r => .done (finish c r)
  state := ⟨store, []⟩

/-- In every order of the single reads and writes the updates have a serial order, that of
their accepted writes. -/
theorem serial_of_reaches (regular : ∀ c, (updates c).Regular) {store : Store}
    (numbered : store.IsNumbered) (found : store.find? kind nameSpace name = some initial)
    {finish : (c : κ) → Except Failure (Option (Resource kind)) × Bool → β c}
    {y : System Request (Ledger κ) β}
    (reaches : System.Reaches Ledger.Records (begin updates nameSpace name finish store) y) :
    Serial updates nameSpace name initial y.state ∧
      ∀ c result, y.code c = .done result →
        ∃ r, result = finish c r ∧ Outcome updates nameSpace name initial c r y.state := by
  obtain ⟨n, version, bound⟩ := numbered found
  -- The order of the writes is serial at first, and every exchange of every writer keeps it so.
  have first : Serial updates nameSpace name initial ⟨store, []⟩ :=
    ⟨List.nodup_nil, initial, n, found, version, bound, rfl⟩
  let post (c : κ) (result : β c) (s : Ledger κ) : Prop :=
    ∃ r, result = finish c r ∧ Outcome updates nameSpace name initial c r s
  have kept : System.Kept (terms updates nameSpace name initial) post
      (begin updates nameSpace name finish store) := by
    intro c
    refine Ensures.bind ((ensures_code (regular c) ⟨first, by simp⟩).weaken ?_)
    exact fun r t outcome u later => ⟨r, rfl, Outcome.stable c r t u later outcome⟩
  refine ⟨?_, fun c result ended =>
    (System.Reaches.kept System.fair_among reaches kept).result ended⟩
  exact System.Reaches.invariant System.fair_among
    (fun _ _ _ _ guaranteed serial => (guaranteed.1 serial).1) reaches kept first

end

end Updates

end ClusterBackup
