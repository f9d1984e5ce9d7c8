import ClusterBackup.Proofs.Program.Footprint
import ClusterBackup.Proofs.Store.Answers

/-! How a store goes on. What is found in a later state is as it was, or has a newer version; and what
a store says of the repositories in one namespace is changed by few requests. -/

set_option autoImplicit false

namespace ClusterBackup.Simulation.Store

open Program

variable {kind : ResourceKind} {nameSpace name : String} {s t u : Store}

/-- A store and a later state of it. Objects may go, and what is written has a newer version than
all that was stored before. -/
structure Evolves (s t : Store) : Prop where
  version : s.version ≤ t.version
  objects : ∀ {kind : ResourceKind} {nameSpace name : String} {object : Resource kind},
    t.find? kind nameSpace name = some object →
      s.find? kind nameSpace name = some object ∨
        ∃ n, object.Numbered n ∧ s.version < n ∧ n ≤ t.version

theorem Evolves.refl (s : Store) : Evolves s s := ⟨Nat.le_refl _, .inl⟩

theorem Evolves.trans (first : Evolves s t) (second : Evolves t u) : Evolves s u := by
  refine ⟨Nat.le_trans first.version second.version, fun found => ?_⟩
  rcases second.objects found with earlier | ⟨n, numbered, newer, bound⟩
  · rcases first.objects earlier with still | ⟨n, numbered, newer, bound⟩
    · exact .inl still
    · exact .inr ⟨n, numbered, newer, Nat.le_trans bound second.version⟩
  · exact .inr ⟨n, numbered, Nat.lt_of_le_of_lt first.version newer, bound⟩

theorem IsNumbered.evolves (numbered : s.IsNumbered) (evolves : Evolves s t) : t.IsNumbered := by
  intro kind nameSpace name object found
  rcases evolves.objects found with still | ⟨n, version, _, bound⟩
  · obtain ⟨n, version, bound⟩ := numbered still
    exact ⟨n, version, Nat.le_trans bound evolves.version⟩
  · exact ⟨n, version, bound⟩

theorem evolves_accept (s : Store) (object : Resource kind) :
    Evolves s (s.accept kind object).2 := by
  refine ⟨Nat.le_succ _, fun {other nameSpace name found} here => ?_⟩
  by_cases same : kind = other ∧ object.nameSpace = nameSpace ∧ object.name = name
  · obtain ⟨rfl, rfl, rfl⟩ := same
    rw [find?_accept_self] at here
    obtain rfl := Option.some.inj here
    exact .inr ⟨s.version + 1, rfl, Nat.lt_succ_self _, Nat.le_refl _⟩
  · rw [find?_accept_other s object same] at here
    exact .inl here

theorem Replaced.written {object : Resource kind} {reply : Except Failure (Resource kind)}
    (replaced : Replaced s object reply t) : t = s ∨ t = (s.accept kind object).2 := by
  cases replaced with
  | missing | stale => exact .inl rfl
  | accepted => exact .inr rfl

theorem Created.written {object : Resource kind} {reply : Except Failure (Resource kind)}
    (created : Created s object reply t) : t = s ∨ t = (s.accept kind object).2 := by
  cases created with
  | existing => exact .inl rfl
  | accepted => exact .inr rfl

theorem Answers.written {e : Exchange Request} (answers : Answers s e t) :
    t = s ∨ ∃ kind, ∃ object : Resource kind, e.request.reach = .writing kind ∧
      t = (s.accept kind object).2 := by
  obtain ⟨request, reply⟩ := e
  have writes {kind : ResourceKind} (object : Resource kind)
      (reached : request.reach = .writing kind)
      (written : t = s ∨ t = (s.accept kind object).2) :
      t = s ∨ ∃ kind, ∃ object : Resource kind, request.reach = .writing kind ∧
        t = (s.accept kind object).2 :=
    written.imp id fun accepted => ⟨kind, object, reached, accepted⟩
  rcases answers with served | ⟨rfl, _⟩
  · cases request with
    | create kind object =>
      have after : t = (s.create kind object).2 := congrArg Prod.snd served
      exact writes object rfl (after ▸ (create_created s object).written)
    | replace kind object | replaceStatus kind object =>
      have after : t = (s.replace kind object).2 := congrArg Prod.snd served
      exact writes object rfl (after ▸ (replace_replaced s object).written)
    | get | secret => exact .inl served.2
    | _ => exact .inl served
  · exact .inl rfl

theorem Answers.evolves {e : Exchange Request} (answers : Answers s e t) : Evolves s t := by
  rcases answers.written with rfl | ⟨kind, object, _, rfl⟩
  · exact .refl _
  · exact evolves_accept s object

/-- What is not written is found as it was. -/
theorem Answers.find?_eq {e : Exchange Request} (answers : Answers s e t)
    (other : e.request.reach ≠ .writing kind) :
    t.find? kind nameSpace name = s.find? kind nameSpace name := by
  rcases answers.written with rfl | ⟨written, object, reached, rfl⟩
  · rfl
  · refine find?_accept_other s object fun same => other ?_
    rw [reached, same.1]

end ClusterBackup.Simulation.Store

/-! ### The repositories of a namespace -/

namespace ClusterBackup.Simulation.Store

open Program

variable {nameSpace : String} {s t u : Store}

/-- The same repositories, up to their versions and statuses. -/
def SameRepositories (nameSpace : String) (s t : Store) : Prop :=
  ∀ name, (t.find? .repository nameSpace name).map (·.spec) =
    (s.find? .repository nameSpace name).map (·.spec)

theorem SameRepositories.refl (s : Store) : SameRepositories nameSpace s s := fun _ => rfl

theorem SameRepositories.trans (first : SameRepositories nameSpace s t)
    (second : SameRepositories nameSpace t u) : SameRepositories nameSpace s u :=
  fun name => (second name).trans (first name)

theorem SameRepositories.symm (same : SameRepositories nameSpace s t) :
    SameRepositories nameSpace t s :=
  fun name => (same name).symm

theorem SameRepositories.found (same : SameRepositories nameSpace s t) {name : String}
    {r : Repository} (found : s.find? .repository nameSpace name = some r) :
    ∃ r', t.find? .repository nameSpace name = some r' ∧ r'.spec = r.spec := by
  have specs := same name
  rw [found] at specs
  exact Option.map_eq_some_iff.mp specs

/-- Requests that write no repository. -/
def Neutral : ⦃β : Type⦄ → Request β → Prop
  | _, .create kind _ => kind ≠ .repository
  | _, .replace kind _ => kind ≠ .repository
  | _, .replaceStatus kind _ => kind ≠ .repository
  | _, _ => True

theorem accept_same {kind : ResourceKind} (other : kind ≠ .repository) (object : Resource kind) :
    SameRepositories nameSpace s (s.accept kind object).2 := by
  intro name
  rw [find?_accept_other s object fun same => other same.1]

theorem replace_same {kind : ResourceKind} {object : Resource kind}
    (harmless : ∀ old, s.find? kind object.nameSpace object.name = some old →
      SameRepositories nameSpace s (s.accept kind object).2) :
    SameRepositories nameSpace s (s.replace kind object).2 := by
  have replaced := replace_replaced s object
  generalize s.replace kind object = result at replaced
  obtain ⟨reply, after⟩ := result
  cases replaced with
  | missing => exact .refl _
  | stale => exact .refl _
  | accepted found => exact harmless _ found

theorem neutral_iff {β : Type} (r : Request β) :
    Neutral r ↔ r.reach ≠ .writing .repository := by
  cases r <;> simp [Neutral, Request.reach]

theorem Answers.same {e : Exchange Request} (neutral : Neutral e.request)
    (answers : Answers s e t) : SameRepositories nameSpace s t :=
  fun _ => congrArg _ (answers.find?_eq ((neutral_iff e.request).mp neutral))

theorem accept_same_of_spec {object old : Repository}
    (found : s.find? .repository object.nameSpace object.name = some old)
    (same : object.spec = old.spec) :
    SameRepositories nameSpace s (s.accept .repository object).2 := by
  intro name
  by_cases here : object.nameSpace = nameSpace ∧ object.name = name
  · obtain ⟨rfl, rfl⟩ := here
    rw [find?_accept_self, found]
    exact congrArg some same
  · rw [find?_accept_other s object fun same => here same.2]

end ClusterBackup.Simulation.Store
