import ClusterBackup.Proofs.Text.Trim

/-! Texts in pieces: what stands between the separators of a text that was put together, and its
words. -/

set_option autoImplicit false

namespace ClusterBackup.Text

/-! ### Separators -/

section

variable {separator : Char} {before xs : List Char}

theorem splitAt_ne_nil (c : Char) (xs : List Char) : splitAt c xs ≠ [] := by
  cases xs with
  | nil => simp [splitAt]
  | cons x rest =>
    unfold splitAt
    split
    · simp
    · split <;> simp

theorem splitAt_append (c : Char) (xs ys : List Char) :
    splitAt c (xs ++ c :: ys) = splitAt c xs ++ splitAt c ys := by
  induction xs with
  | nil => simp [splitAt]
  | cons x rest ih =>
    by_cases same : x = c
    · simp [splitAt, same, ih]
    · -- The first character goes to the first piece, which is there in any case.
      simp only [List.cons_append, splitAt, same, if_false, ih]
      obtain ⟨piece, pieces, whole⟩ := List.exists_cons_of_ne_nil (splitAt_ne_nil c rest)
      rw [whole]
      rfl

theorem mem_splitAt {c : Char} (separator : Char) (member : c ∈ xs) :
    c = separator ∨ ∃ piece ∈ splitAt separator xs, c ∈ piece := by
  induction xs with
  | nil => exact absurd member List.not_mem_nil
  | cons x rest ih =>
    by_cases same : x = separator
    · rcases List.mem_cons.mp member with rfl | later
      · exact .inl same
      · refine (ih later).imp id fun ⟨piece, listed, inside⟩ => ⟨piece, ?_, inside⟩
        simp [splitAt, same, listed]
    · obtain ⟨first, others, whole⟩ := List.exists_cons_of_ne_nil (splitAt_ne_nil separator rest)
      simp only [splitAt, same, if_false, whole, List.exists_mem_cons_iff] at ih ⊢
      rcases List.mem_cons.mp member with rfl | later
      · exact .inr (.inl List.mem_cons_self)
      · exact (ih later).imp id (Or.imp (List.mem_cons_of_mem _) id)

theorem cutAt_append (absent : separator ∉ before) (after : List Char) :
    cutAt separator (before ++ separator :: after) = some (before, after) := by
  induction before with
  | nil => simp [cutAt]
  | cons c rest ih =>
    obtain ⟨other, rest'⟩ := not_or.mp (mt List.mem_cons.mpr absent)
    simp [cutAt, ih rest', Ne.symm other]

theorem cutAt_of_absent (absent : separator ∉ xs) : cutAt separator xs = none := by
  induction xs with
  | nil => rfl
  | cons c rest ih =>
    obtain ⟨other, rest'⟩ := not_or.mp (mt List.mem_cons.mpr absent)
    simp [cutAt, ih rest', Ne.symm other]

theorem cutChar_append (s t : String) (absent : separator ∉ s.toList) :
    cutChar separator (s ++ String.ofList [separator] ++ t) = some (s, t) := by
  simp [cutChar, cutAt_append absent]

theorem cutChar_of_absent (s : String) (absent : separator ∉ s.toList) :
    cutChar separator s = none := by
  rw [cutChar, cutAt_of_absent absent]
  rfl

theorem joinWith_cons_cons (separator piece next : List Char) (rest : List (List Char)) :
    joinWith separator (piece :: next :: rest) =
      piece ++ separator ++ joinWith separator (next :: rest) :=
  rfl

end

/-! ### Words -/

/-- The pieces between blanks, the empty ones with them. -/
def fragments (cs : List Char) : List (List Char) :=
  cs.foldr
    (fun c (pieces : List (List Char)) =>
      if isBlank c then [] :: pieces
      else match pieces with
        | [] => [[c]]
        | piece :: others => (c :: piece) :: others)
    [[]]

theorem wordsOf_eq (cs : List Char) : wordsOf cs = (fragments cs).filter (! ·.isEmpty) := rfl

variable {c : Char} {xs ys : List Char}

theorem fragments_blank (blank : isBlank c) (xs : List Char) : fragments (c :: xs) = [] :: fragments xs :=
  if_pos blank

theorem fragments_cons {piece : List Char} {others : List (List Char)} (solid : ¬ isBlank c)
    (whole : fragments xs = piece :: others) : fragments (c :: xs) = (c :: piece) :: others := by
  refine (if_neg solid).trans ?_
  change (match fragments xs with
    | [] => [[c]]
    | piece :: others => (c :: piece) :: others) = _
  rw [whole]

theorem fragments_ne_nil (xs : List Char) : ∃ piece others, fragments xs = piece :: others := by
  induction xs with
  | nil => exact ⟨[], [], rfl⟩
  | cons c rest ih =>
    obtain ⟨piece, others, whole⟩ := ih
    by_cases blank : isBlank c
    · exact ⟨[], fragments rest, fragments_blank blank rest⟩
    · exact ⟨c :: piece, others, fragments_cons blank whole⟩

theorem fragments_append (blank : isBlank c) (xs ys : List Char) :
    fragments (xs ++ c :: ys) = fragments xs ++ fragments ys := by
  induction xs with
  | nil => exact fragments_blank blank ys
  | cons d rest ih =>
    by_cases other : isBlank d
    · rw [List.cons_append, fragments_blank other, fragments_blank other, ih, List.cons_append]
    · obtain ⟨piece, others, whole⟩ := fragments_ne_nil rest
      rw [whole, List.cons_append] at ih
      rw [List.cons_append, fragments_cons other ih, fragments_cons other whole, List.cons_append]

theorem wordsOf_append (blank : isBlank c) (xs ys : List Char) :
    wordsOf (xs ++ c :: ys) = wordsOf xs ++ wordsOf ys := by
  rw [wordsOf_eq, fragments_append blank, List.filter_append]
  rfl

theorem wordsOf_blanks_append (blanks : ∀ c ∈ xs, isBlank c) (ys : List Char) :
    wordsOf (xs ++ ys) = wordsOf ys := by
  induction xs with
  | nil => rfl
  | cons c rest ih =>
    rw [List.forall_mem_cons] at blanks
    calc wordsOf (c :: (rest ++ ys))
        = wordsOf [] ++ wordsOf (rest ++ ys) := wordsOf_append blanks.1 [] _
      _ = wordsOf ys := ih blanks.2

theorem wordsOf_append_blanks (xs : List Char) (blanks : ∀ c ∈ ys, isBlank c) :
    wordsOf (xs ++ ys) = wordsOf xs := by
  cases ys with
  | nil => rw [List.append_nil]
  | cons c rest =>
    rw [List.forall_mem_cons] at blanks
    have none : wordsOf rest = [] := by
      rw [← List.append_nil rest]
      exact wordsOf_blanks_append blanks.2 []
    rw [wordsOf_append blanks.1, none, List.append_nil]

theorem exists_trimWhile (p : Char → Bool) (xs : List Char) :
    ∃ lead trail, (∀ c ∈ lead, p c) ∧ (∀ c ∈ trail, p c) ∧ xs = lead ++ trimWhile p xs ++ trail := by
  obtain ⟨trail, cut, whole⟩ := dropRightWhile_append_cut p (xs.dropWhile p)
  refine ⟨xs.takeWhile p, trail, fun c => List.mem_takeWhile_imp, cut, ?_⟩
  rw [List.append_assoc, trimWhile, ← whole, List.takeWhile_append_dropWhile]

theorem wordsOf_trimWhile (xs : List Char) : wordsOf (trimWhile isBlank xs) = wordsOf xs := by
  obtain ⟨lead, trail, left, right, whole⟩ := exists_trimWhile isBlank xs
  generalize trimWhile isBlank xs = kept at whole ⊢
  rw [whole, List.append_assoc, wordsOf_blanks_append left, wordsOf_append_blanks _ right]

theorem words_trim (s : String) : words (trim s) = words s := by
  rw [words, trim, onChars, String.toList_ofList, wordsOf_trimWhile, words]

theorem fragments_of_solid (solid : ∀ c ∈ xs, ¬ isBlank c) : fragments xs = [xs] := by
  induction xs with
  | nil => rfl
  | cons c rest ih =>
    rw [List.forall_mem_cons] at solid
    exact fragments_cons solid.1 (ih solid.2)

theorem length_wordsOf_le_one (solid : ∀ c ∈ xs, ¬ isBlank c) : (wordsOf xs).length ≤ 1 := by
  rw [wordsOf_eq, fragments_of_solid solid]
  exact List.length_filter_le _ _

theorem length_wordsOf_append_le (left : ∀ c ∈ xs, ¬ isBlank c)
    (right : ∀ c ∈ trimWhile isBlank ys, ¬ isBlank c) : (wordsOf (xs ++ ys)).length ≤ 2 := by
  obtain ⟨lead, trail, before, after, whole⟩ := exists_trimWhile isBlank ys
  generalize trimWhile isBlank ys = kept at whole right
  rw [whole, ← List.append_assoc, wordsOf_append_blanks _ after]
  cases lead with
  | nil =>
    -- Without a blank in between, both are one word.
    have solid : ∀ c ∈ xs ++ kept, ¬ isBlank c := fun c member =>
      (List.mem_append.mp member).elim (left c) (right c)
    exact le_trans (length_wordsOf_le_one solid) (by decide)
  | cons c lead =>
    rw [List.forall_mem_cons] at before
    rw [List.cons_append, wordsOf_append before.1, wordsOf_blanks_append before.2, List.length_append]
    exact Nat.add_le_add (length_wordsOf_le_one left) (length_wordsOf_le_one right)

end ClusterBackup.Text
