import ClusterBackup.Text.Scan
import Mathlib.Data.List.DropRight

/-! Trimming: what is cut off at the ends of a text, and what stays of texts that are put
together. -/

set_option autoImplicit false

namespace ClusterBackup.Text

variable {p : Char → Bool} {xs ys : List Char}

theorem dropRightWhile_eq (p : Char → Bool) (xs : List Char) :
    dropRightWhile p xs = xs.rdropWhile p := rfl

theorem dropRightWhile_eq_nil_iff : dropRightWhile p xs = [] ↔ ∀ c ∈ xs, p c :=
  List.rdropWhile_eq_nil_iff

@[simp] theorem dropRightWhile_idem :
    dropRightWhile p (dropRightWhile p xs) = dropRightWhile p xs :=
  List.rdropWhile_idempotent p xs

theorem dropRightWhile_append_cut (p : Char → Bool) (xs : List Char) :
    ∃ cut, (∀ c ∈ cut, p c) ∧ xs = dropRightWhile p xs ++ cut :=
  ⟨xs.rtakeWhile p, fun _ => List.mem_rtakeWhile_imp, (List.rdropWhile_append_rtakeWhile ..).symm⟩

theorem dropRightWhile_append_of_all (all : ∀ c ∈ ys, p c) :
    dropRightWhile p (xs ++ ys) = dropRightWhile p xs := by
  simp only [dropRightWhile, List.reverse_append]
  rw [List.dropWhile_append_of_pos]
  simpa using all

theorem dropRightWhile_append_of_kept (kept : dropRightWhile p ys = ys) (present : ys ≠ []) :
    dropRightWhile p (xs ++ ys) = xs ++ ys := by
  rw [dropRightWhile_eq, List.rdropWhile_eq_self_iff] at kept ⊢
  intro _
  rw [List.getLast_append_of_ne_nil _ present]
  exact kept present

theorem kept_of_append (kept : dropRightWhile p (xs ++ ys) = xs ++ ys) :
    dropRightWhile p ys = ys := by
  rw [dropRightWhile_eq, List.rdropWhile_eq_self_iff] at kept ⊢
  intro present
  have last := kept (List.append_ne_nil_of_right_ne_nil xs present)
  rwa [List.getLast_append_of_ne_nil _ present] at last

theorem kept_dropWhile (kept : dropRightWhile p xs = xs) :
    dropRightWhile p (xs.dropWhile p) = xs.dropWhile p := by
  rw [← List.takeWhile_append_dropWhile (p := p) (l := xs)] at kept
  exact kept_of_append kept

theorem dropWhile_ne_nil (kept : dropRightWhile p xs = xs) (present : xs ≠ []) :
    xs.dropWhile p ≠ [] := by
  intro none
  have all := List.dropWhile_eq_nil_iff.mp none
  exact present (kept.symm.trans (dropRightWhile_eq_nil_iff.mpr all))

theorem trimWhile_eq_nil_iff : trimWhile p xs = [] ↔ ∀ c ∈ xs, p c := by
  rw [trimWhile, dropRightWhile_eq_nil_iff, ← List.dropWhile_eq_nil_iff,
    ← List.dropWhile_eq_nil_iff, List.dropWhile_idempotent]

theorem trimWhile_dropRightWhile (p : Char → Bool) (xs : List Char) :
    trimWhile p (dropRightWhile p xs) = trimWhile p xs := by
  obtain ⟨cut, all, whole⟩ := dropRightWhile_append_cut p xs
  generalize dropRightWhile p xs = base at whole ⊢
  subst whole
  rw [trimWhile, trimWhile, List.dropWhile_append]
  -- The cut is dropped from either end: from the left only if nothing stays before it.
  by_cases none : base.dropWhile p = []
  · rw [none, List.dropWhile_eq_nil_iff.mpr all]
    rfl
  · rw [if_neg (by simpa using none), dropRightWhile_append_of_all all]

theorem trimWhile_idem (p : Char → Bool) (xs : List Char) :
    trimWhile p (trimWhile p xs) = trimWhile p xs := by
  calc trimWhile p (trimWhile p xs)
      = trimWhile p (xs.dropWhile p) := trimWhile_dropRightWhile p (xs.dropWhile p)
    _ = trimWhile p xs := by rw [trimWhile, List.dropWhile_idempotent, trimWhile]

theorem kept_trimWhile (p : Char → Bool) (xs : List Char) :
    dropRightWhile p (trimWhile p xs) = trimWhile p xs :=
  dropRightWhile_idem

theorem head?_dropRightWhile (present : dropRightWhile p xs ≠ []) :
    (dropRightWhile p xs).head? = xs.head? := by
  obtain ⟨cut, _, whole⟩ := dropRightWhile_append_cut p xs
  obtain ⟨c, rest, base⟩ := List.exists_cons_of_ne_nil present
  rw [base] at whole ⊢
  rw [whole]
  rfl

theorem head?_trimWhile {c : Char} (first : (trimWhile p xs).head? = some c) : ¬ p c := by
  have present : trimWhile p xs ≠ [] := fun none => by
    rw [none] at first
    cases first
  have stays := List.head?_dropWhile_not p xs
  rw [trimWhile, head?_dropRightWhile present] at first
  rw [first] at stays
  simpa using stays

theorem trimWhile_of_none (none : ∀ c ∈ xs, ¬ p c) : trimWhile p xs = xs := by
  have start : xs.dropWhile p = xs := by
    rw [List.dropWhile_eq_self_iff]
    exact fun present => none _ (List.getElem_mem present)
  rw [trimWhile, start, dropRightWhile_eq, List.rdropWhile_eq_self_iff]
  exact fun present => none _ (List.getLast_mem present)

theorem trimWhile_append (left : dropRightWhile p xs = xs) (nonempty : xs ≠ [])
    (right : dropRightWhile p ys = ys) (present : ys ≠ []) :
    trimWhile p (xs ++ ys) = trimWhile p xs ++ ys := by
  have stays := dropWhile_ne_nil left nonempty
  rw [trimWhile, List.dropWhile_append, if_neg (by simpa using stays),
    dropRightWhile_append_of_kept right present, trimWhile, kept_dropWhile left]

end ClusterBackup.Text
