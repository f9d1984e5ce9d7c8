import ClusterBackup.Text.Dictionary
import Mathlib.Data.List.Sort

/-! A dictionary is what it answers for every key. -/

set_option autoImplicit false

namespace ClusterBackup.Dictionary

variable {d d' : Dictionary}

theorem nodup_keys (d : Dictionary) : (d.entries.map (·.1)).Nodup :=
  List.pairwise_map.mpr (d.sorted.imp String.ne_of_lt)

theorem mem_entries_iff {entry : String × String} :
    entry ∈ d.entries ↔ d.get? entry.1 = some entry.2 := by
  constructor
  · intro member
    obtain ⟨found, hit⟩ : ∃ found, d.entries.find? (·.1 == entry.1) = some found := by
      rw [← Option.isSome_iff_exists, List.find?_isSome]
      exact ⟨entry, member, beq_self_eq_true _⟩
    -- Keys are distinct, so what is found under the key of the entry is the entry.
    have same : found = entry := List.inj_on_of_nodup_map d.nodup_keys
      (List.mem_of_find?_eq_some hit) member (by simpa using List.find?_some hit)
    rw [get?, hit, same, Option.map_some]
  · intro answer
    obtain ⟨found, hit, value⟩ := Option.map_eq_some_iff.mp answer
    have key : found.1 = entry.1 := by simpa using List.find?_some hit
    exact Prod.ext key value ▸ List.mem_of_find?_eq_some hit

theorem ext_get? (same : ∀ key, d.get? key = d'.get? key) : d = d' := by
  let below (a b : String × String) : Prop := a.1 < b.1
  have : Std.Irrefl below := ⟨fun a => String.lt_irrefl a.1⟩
  have : Std.Antisymm below := ⟨fun _ _ less more => absurd more (String.lt_asymm less)⟩
  have entries : d.entries = d'.entries := by
    refine List.Subset.antisymm_of_pairwise (r := below) d.sorted d'.sorted ?_ ?_
    · exact fun entry member => mem_entries_iff.mpr (same _ ▸ mem_entries_iff.mp member)
    · exact fun entry member => mem_entries_iff.mpr (same _ ▸ mem_entries_iff.mp member)
  cases d
  cases d'
  cases entries
  rfl

@[simp] theorem get?_empty (key : String) : empty.get? key = none := rfl

@[simp] theorem get?_erase (d : Dictionary) (key other : String) :
    (d.erase key).get? other = if key = other then none else d.get? other := by
  rw [get?, erase, List.find?_filter]
  split
  · rename_i same
    subst same
    rw [List.find?_eq_none.mpr (by simp), Option.map_none]
  · rename_i different
    rw [get?]
    congr 2
    funext entry
    by_cases hit : entry.1 = other <;> simp [hit, Ne.symm different]

theorem isEmpty_iff : d.isEmpty ↔ d = empty := by
  rw [isEmpty, List.isEmpty_iff]
  constructor
  · intro none
    cases d
    cases none
    rfl
  · exact fun same => same ▸ rfl

@[simp] theorem isEmpty_empty : empty.isEmpty = true := rfl

theorem erase_of_absent {key : String} (absent : d.get? key = none) : d.erase key = d := by
  refine ext_get? fun other => ?_
  rw [get?_erase]
  split
  · rename_i same
    rw [← same, absent]
  · rfl

/-! ### Entries in order -/

theorem insertEntry_of_above {key : String} {entries : List (String × String)}
    (above : ∀ entry ∈ entries, entry.1 < key) (value : String) :
    insertEntry key value entries = entries ++ [(key, value)] := by
  induction entries with
  | nil => rfl
  | cons entry rest ih =>
    rw [List.forall_mem_cons] at above
    rw [insertEntry, if_neg (String.lt_asymm above.1), if_neg (String.ne_of_lt above.1).symm, ih above.2,
      List.cons_append]

theorem entries_foldl {todo : List (String × String)} (d : Dictionary)
    (sorted : (d.entries ++ todo).Pairwise (fun a b => a.1 < b.1)) :
    (todo.foldl (fun d entry => d.insert entry.1 entry.2) d).entries = d.entries ++ todo := by
  -- The keys come in order, so each entry goes behind those that are there already.
  induction todo generalizing d with
  | nil => exact (List.append_nil _).symm
  | cons entry rest ih =>
    have above : ∀ earlier ∈ d.entries, earlier.1 < entry.1 := fun earlier listed =>
      (List.pairwise_append.mp sorted).2.2 earlier listed entry List.mem_cons_self
    have inserted : (d.insert entry.1 entry.2).entries = d.entries ++ [entry] :=
      insertEntry_of_above above entry.2
    rw [List.foldl_cons, ih _ (by rwa [inserted, ← List.append_cons]), inserted, ← List.append_cons]

theorem ofList_entries (d : Dictionary) : ofList d.entries = d := by
  have entries : (ofList d.entries).entries = d.entries := entries_foldl empty d.sorted
  generalize ofList d.entries = again at entries ⊢
  cases again
  cases d
  cases entries
  rfl

end ClusterBackup.Dictionary
