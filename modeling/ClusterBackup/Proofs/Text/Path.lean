import ClusterBackup.Proofs.Text.Pieces
import ClusterBackup.Resource.Backend
import ClusterBackup.Text.Path

/-! Paths as text: the pieces of a path between its slashes, and which file it names. -/

set_option autoImplicit false

namespace ClusterBackup.Path

open Text

/-- What a path names when repeated slashes are one and those at its end are none: whether it
begins at the root, and what is between its slashes. -/
structure Place where
  rooted : Bool
  names : List (List Char)
  deriving DecidableEq, Repr

def names (cs : List Char) : List (List Char) := (splitAt '/' cs).filter (· ≠ [])

def place (s : String) : Place := ⟨s.toList.head? == some '/', names s.toList⟩

def IsRoot (s : String) : Prop := s ≠ "" ∧ ∀ c ∈ s.toList, c = '/'

theorem names_append (xs ys : List Char) : names (xs ++ '/' :: ys) = names xs ++ names ys := by
  simp [names, splitAt_append]

theorem names_slashes {xs : List Char} (slashes : ∀ c ∈ xs, c = '/') (ys : List Char) :
    names (xs ++ ys) = names ys := by
  induction xs with
  | nil => rfl
  | cons c rest ih =>
    obtain rfl := slashes c List.mem_cons_self
    calc names ('/' :: (rest ++ ys))
        = names [] ++ names (rest ++ ys) := names_append [] (rest ++ ys)
      _ = names ys := ih fun c member => slashes c (List.mem_cons_of_mem _ member)

theorem names_append_slashes (xs : List Char) {cut : List Char} (slashes : ∀ c ∈ cut, c = '/') :
    names (xs ++ cut) = names xs := by
  cases cut with
  | nil => rw [List.append_nil]
  | cons c rest =>
    obtain rfl := slashes c List.mem_cons_self
    have none := names_slashes (fun c member => slashes c (List.mem_cons_of_mem _ member)) []
    rw [names_append, ← List.append_nil rest, none]
    exact List.append_nil _

def appendChars (base path : List Char) : List Char :=
  let base := dropRightWhile (· = '/') base
  let path := trimWhile (· = '/') path
  if path = [] then base else if base = [] then path else base ++ '/' :: path

theorem names_dropRightWhile (xs : List Char) : names (dropRightWhile (· = '/') xs) = names xs := by
  obtain ⟨cut, slashes, whole⟩ := dropRightWhile_append_cut (· = '/') xs
  calc names (dropRightWhile (· = '/') xs)
      = names (dropRightWhile (· = '/') xs ++ cut) :=
        (names_append_slashes _ (by simpa using slashes)).symm
    _ = names xs := by rw [← whole]

theorem names_appendChars (base path : List Char) :
    names (appendChars base path) = names base ++ names (trimWhile (· = '/') path) := by
  unfold appendChars
  rw [← names_dropRightWhile base]
  generalize dropRightWhile (· = '/') base = base
  by_cases none : trimWhile (· = '/') path = []
  · rw [if_pos none, none]
    exact (List.append_nil _).symm
  by_cases alone : base = []
  · rw [if_neg none, if_pos alone, alone]
    rfl
  · rw [if_neg none, if_neg alone, names_append]

theorem head?_trimmed (path : List Char) : (trimWhile (· = '/') path).head? ≠ some '/' :=
  fun first => head?_trimWhile first (by simp)

theorem rooted_appendChars (base path : List Char) :
    (appendChars base path).head? = some '/' ↔ base.head? = some '/' ∧ ¬ ∀ c ∈ base, c = '/' := by
  have alone : dropRightWhile (· = '/') base = [] ↔ ∀ c ∈ base, c = '/' := by
    rw [dropRightWhile_eq_nil_iff]
    simp
  unfold appendChars
  rw [← alone]
  by_cases empty : dropRightWhile (· = '/') base = []
  · refine iff_of_false ?_ fun both => both.2 empty
    by_cases none : trimWhile (· = '/') path = []
    · simp [none, empty]
    · simpa [none, empty] using head?_trimmed path
  · have first := head?_dropRightWhile empty
    obtain ⟨c, rest, whole⟩ := List.exists_cons_of_ne_nil empty
    by_cases none : trimWhile (· = '/') path = []
    · simp [none, first, empty]
    · rw [← first]
      simp [none, whole]

theorem toList_appendPath (base path : String) :
    (appendPath base path).toList = appendChars base.toList path.toList := by
  simp only [appendPath, trimRightChar, trimChar, onChars, appendChars, String.ofList_eq_empty_iff]
  by_cases none : trimWhile (· = '/') path.toList = []
  · simp only [none, if_true, String.toList_ofList]
  · by_cases root : dropRightWhile (· = '/') base.toList = []
    · simp only [none, root, if_true, if_false, String.toList_ofList]
    · simp [none, root]

/-- What is joined into segments. -/
def pieces (parts : List (List Char)) : List (List Char) :=
  (parts.map (trimWhile (· = '/'))).filter (· ≠ [])

theorem toList_segments (parts : List String) :
    (segments parts).toList = joinWith ['/'] (pieces (parts.map String.toList)) := by
  have same : ((parts.map (trimChar '/')).filter (· ≠ "")).map String.toList =
      pieces (parts.map String.toList) := by
    induction parts with
    | nil => rfl
    | cons part rest ih =>
      by_cases none : trimWhile (· = '/') part.toList = []
      · simpa [trimChar, onChars, pieces, none] using ih
      · simpa [trimChar, onChars, pieces, none] using ih
  rw [segments, Text.join, String.toList_ofList, same]
  rfl

theorem toList_segments_one (path : String) :
    (segments [path]).toList = trimWhile (· = '/') path.toList := by
  rw [toList_segments]
  by_cases none : trimWhile (· = '/') path.toList = [] <;> simp [pieces, none, joinWith]

theorem joinWith_append_pair (separator : List Char) (before : List (List Char)) (a b : List Char) :
    joinWith separator (before ++ [a, b]) =
      joinWith separator (before ++ [a ++ separator ++ b]) := by
  induction before with
  | nil => rfl
  | cons piece rest ih =>
    cases rest with
    | nil => simp [joinWith]
    | cons next rest => simpa [joinWith] using ih

theorem pieces_append (before after : List (List Char)) :
    pieces (before ++ after) = pieces before ++ pieces after := by
  simp [pieces]

theorem pieces_nil : pieces [] = [] := rfl

theorem pieces_cons (part : List Char) (rest : List (List Char)) :
    pieces (part :: rest) =
      if trimWhile (· = '/') part = [] then pieces rest
      else trimWhile (· = '/') part :: pieces rest := by
  by_cases none : trimWhile (· = '/') part = [] <;> simp [pieces, none]

theorem segments_appendPath (parts : List String) (base path : String) :
    segments (parts ++ [appendPath base path, ""]) = segments (parts ++ [base, path]) := by
  rw [← String.toList_inj, toList_segments, toList_segments, List.map_append, List.map_append,
    pieces_append, pieces_append]
  simp only [List.map_cons, List.map_nil, toList_appendPath, String.toList_empty]
  generalize pieces (parts.map String.toList) = before
  generalize base.toList = base
  generalize path.toList = path
  have root : dropRightWhile (· = '/') base = [] ↔ trimWhile (· = '/') base = [] := by
    rw [dropRightWhile_eq_nil_iff, trimWhile_eq_nil_iff]
  have empty : trimWhile (· = '/') [] = [] := rfl
  unfold appendChars
  by_cases none : trimWhile (· = '/') path = []
  · simp only [pieces_cons, none, if_true, trimWhile_dropRightWhile, empty]
  by_cases alone : trimWhile (· = '/') base = []
  · simp only [pieces_cons, none, root.mpr alone, alone, if_true, if_false, trimWhile_idem, empty]
  · -- Both have characters that stay, so that the slash between them is not trimmed.
    have kept : dropRightWhile (· = '/') ('/' :: trimWhile (· = '/') path) =
        '/' :: trimWhile (· = '/') path := by
      rw [← List.singleton_append]
      exact dropRightWhile_append_of_kept (kept_trimWhile _ path) none
    have middle :=
      trimWhile_append dropRightWhile_idem (mt root.mp alone) kept (List.cons_ne_nil _ _)
    rw [trimWhile_dropRightWhile] at middle
    have present : trimWhile (· = '/') base ++ '/' :: trimWhile (· = '/') path ≠ [] := by simp
    simp only [pieces_cons, pieces_nil, none, mt root.mp alone, alone, if_false, middle, present,
      empty, if_true]
    rw [joinWith_append_pair, List.append_assoc]
    rfl

end ClusterBackup.Path
