import ClusterBackup.Proofs.Selector.Reading

/-! The text of a selector, read as a query.

Labels and requirements become one term each. The values of a requirement are sorted, which makes no
difference to what it asks. -/

set_option autoImplicit false

namespace ClusterBackup.Cluster

open Query

def Operator.lists : Operator → Bool
  | .oneOf | .noneOf => true
  | .present | .absent => false

theorem Operator.asks_congr {values others : List String} (same : ∀ v, v ∈ values ↔ v ∈ others)
    (operator : Operator) (value : Option String) :
    operator.Asks values value ↔ operator.Asks others value := by
  cases operator <;> simp [Operator.Asks, same]

theorem Operator.asks_of_lists {operator : Operator} (single : operator.lists = false)
    (values others : List String) (value : Option String) :
    operator.Asks values value ↔ operator.Asks others value := by
  cases operator
  case oneOf => cases single
  case noneOf => cases single
  case present => exact Iff.rfl
  case absent => exact Iff.rfl

theorem prints_label {key value : String} (key_legal : isKey key = true)
    (value_legal : isValue value = true) :
    Prints (key ++ "=" ++ value) { key, operator := .oneOf, values := [value] } := by
  refine ⟨[.word key, .equals] ++ ended value.toList, fun rest goes => ?_, ?_, ?_⟩
  · have plain := plain_of_isValue value_legal
    rw [String.toList_append, String.toList_append, List.append_assoc, List.append_assoc,
      show "=".toList = ['='] from rfl, List.singleton_append,
      scan_word (plain_of_isKey key_legal) (ends_cons (by decide) _),
      scan_sign rfl (head?_append_rest plain goes), scan_word plain goes.ends,
      ended_toList (ne_empty_of_isKey key_legal)]
    rfl
  · by_cases empty : value.toList = [] <;> simp [ended, empty, IsPiece, Uncut, isInside]
  · by_cases empty : value = ""
    · subst empty
      simp [ended, term?, demand?, Term.lawful?, key_legal, value_legal]
    · simp [ended_toList empty, term?, demand?, Term.lawful?, key_legal, value_legal]

theorem prints_present {key : String} (legal : isKey key = true) :
    Prints key { key, operator := .present } := by
  refine ⟨[.word key], fun rest goes => ?_, ⟨⟨nofun, trivial⟩, rfl⟩, ?_⟩
  · rw [scan_word (plain_of_isKey legal) goes.ends, ended_toList (ne_empty_of_isKey legal)]
  · simp [term?, demand?, Term.lawful?, legal]

theorem prints_absent {key : String} (legal : isKey key = true) :
    Prints ("!" ++ key) { key, operator := .absent } := by
  refine ⟨[.negation, .word key], fun rest goes => ?_, ⟨⟨nofun, nofun, trivial⟩, rfl⟩, ?_⟩
  · have plain := plain_of_isKey legal
    rw [String.toList_append, List.append_assoc, show "!".toList = ['!'] from rfl,
      List.singleton_append, scan_sign rfl (head?_append_rest plain goes), scan_word plain goes.ends,
      ended_toList (ne_empty_of_isKey legal)]
    rfl
  · simp [term?, Term.lawful?, legal]

theorem prints_list (word gap : String) {key : String} {values : List String} {operator : Operator}
    (key_legal : isKey key = true) (values_legal : ∀ v ∈ values, isValue v = true)
    (filled : values ≠ []) (plain : ∀ c ∈ word.toList, IsPlain c) (named : word ≠ "")
    (spaced : gap.toList = ' ' :: (word.toList ++ [' ']))
    (demanded : ∀ rest, demand? (.word word :: .opening :: rest) =
      (items? rest).map fun values => (operator, values)) :
    Prints (key ++ gap ++ ("(" ++ Text.join "," values ++ ")")) { key, operator, values } := by
  have items_plain : ∀ item ∈ values.map String.toList, ∀ c ∈ item, IsPlain c := by
    rw [List.forall_mem_map]
    exact fun v listed => plain_of_isValue (values_legal v listed)
  refine ⟨.word key :: .word word :: .opening :: (itemTokens (values.map String.toList) ++ [.closing]),
    fun rest goes => ?_, isPiece_list key word _, ?_⟩
  · -- Key, word and list end where a blank or a bracket comes next, whatever the rest of the query is.
    have space (rest : List Char) : scan [] (' ' :: rest) = scan [] rest := rfl
    have opening (rest : List Char) : scan [] ('(' :: rest) = .opening :: scan [] rest := rfl
    simp only [String.toList_append, spaced, Text.join, String.toList_ofList, List.append_assoc,
      List.cons_append, List.nil_append, show "(".toList = ['('] from rfl,
      show ",".toList = [','] from rfl, show ")".toList = [')'] from rfl]
    rw [scan_word (plain_of_isKey key_legal) (ends_cons (by decide) _), space,
      scan_word plain (ends_cons (by decide) _), space, opening, scan_items items_plain,
      ended_toList (ne_empty_of_isKey key_legal), ended_toList named]
    rfl
  · have back : (values.map String.toList).map String.ofList = values := by simp
    have read := items?_itemTokens (values.map String.toList) (by simpa using filled)
    rw [back] at read
    simpa [term?, demanded, read, Term.lawful?, key_legal] using values_legal

namespace Requirement

variable {r : Requirement} {operator : Operator} {labels : Dictionary}

def listed (r : Requirement) : List String := r.values.getD []

/-- A requirement that a cluster accepts: its key and the values that it lists are those of labels,
and where it asks about values it lists some. -/
def IsLegal (r : Requirement) : Prop :=
  isKey r.key = true ∧ ∃ operator, Operator.parse r.operator = .ok operator ∧
    (operator.lists = true → r.listed ≠ [] ∧ ∀ v ∈ r.listed, isValue v = true)

theorem matches_iff (known : Operator.parse r.operator = .ok operator) :
    r.Matches labels ↔ operator.Asks r.listed (labels.get? r.key) := by
  refine ⟨fun ⟨other, same, asks⟩ => ?_, fun asks => ⟨operator, known, asks⟩⟩
  cases known.symm.trans same
  exact asks

def sorted (r : Requirement) : List String := r.listed.mergeSort (decide <| · ≤ ·)

theorem mem_sorted (r : Requirement) (v : String) : v ∈ r.sorted ↔ v ∈ r.listed :=
  (List.mergeSort_perm r.listed _).mem_iff

theorem sorted_ne_nil (filled : r.listed ≠ []) : r.sorted ≠ [] := by
  intro empty
  obtain ⟨v, member⟩ := List.exists_mem_of_ne_nil _ filled
  exact absurd ((r.mem_sorted v).mpr member) (by simp [empty])

/-- Some text of the requirement is read as a term that asks what the requirement does. -/
def IsPrinted (r : Requirement) : Prop :=
  ∃ text term, r.text = .ok text ∧ Prints text term ∧ ∀ labels, term.Asks labels ↔ r.Matches labels

theorem isPrinted_of {text : String} {values : List String}
    (known : Operator.parse r.operator = .ok operator) (done : r.text = .ok text)
    (printed : Prints text { key := r.key, operator, values })
    (same : ∀ value, operator.Asks values value ↔ operator.Asks r.listed value) : r.IsPrinted :=
  ⟨text, _, done, printed, fun _ => (same _).trans (matches_iff known).symm⟩

theorem IsLegal.isPrinted (legal : r.IsLegal) : r.IsPrinted := by
  obtain ⟨key_legal, operator, known, lists⟩ := legal
  have values_legal (asks : operator.lists = true) : ∀ v ∈ r.sorted, isValue v = true :=
    fun v member => (lists asks).2 v ((r.mem_sorted v).mp member)
  cases operator
  case oneOf =>
    have done := prints_list "in" " in " key_legal (values_legal rfl) (sorted_ne_nil (lists rfl).1)
      (List.all_iff_forall_prop.mp (by decide)) (by decide) rfl fun _ => rfl
    exact isPrinted_of known (by rw [text, known]; rfl) done (Operator.asks_congr r.mem_sorted .oneOf)
  case noneOf =>
    have done := prints_list "notin" " notin " key_legal (values_legal rfl) (sorted_ne_nil (lists rfl).1)
      (List.all_iff_forall_prop.mp (by decide)) (by decide) rfl fun _ => rfl
    exact isPrinted_of known (by rw [text, known]; rfl) done (Operator.asks_congr r.mem_sorted .noneOf)
  case present =>
    exact isPrinted_of known (by rw [text, known]; rfl) (prints_present key_legal)
      (Operator.asks_of_lists rfl [] r.listed)
  case absent =>
    exact isPrinted_of known (by rw [text, known]; rfl) (prints_absent key_legal)
      (Operator.asks_of_lists rfl [] r.listed)

end Requirement

namespace LabelSelector

variable {s : LabelSelector}

/-- A selector that a cluster accepts. -/
def IsLegal (s : LabelSelector) : Prop :=
  (∀ pair ∈ s.pairs, isKey pair.1 = true ∧ isValue pair.2 = true) ∧ ∀ r ∈ s.listed, r.IsLegal

theorem prints_pairs {pairs : List (String × String)}
    (legal : ∀ pair ∈ pairs, isKey pair.1 = true ∧ isValue pair.2 = true) :
    ∃ terms, List.Forall₂ Prints (pairs.map fun (k, v) => k ++ "=" ++ v) terms ∧
      ∀ labels : Dictionary, (∀ term ∈ terms, term.Asks labels) ↔
        ∀ pair ∈ pairs, labels.get? pair.1 = some pair.2 := by
  induction pairs with
  | nil => exact ⟨[], .nil, fun labels => by simp⟩
  | cons pair rest ih =>
    rw [List.forall_mem_cons] at legal
    obtain ⟨terms, printed, asks⟩ := ih legal.2
    refine ⟨_ :: terms, .cons (prints_label legal.1.1 legal.1.2) printed, fun labels => ?_⟩
    rw [List.forall_mem_cons, List.forall_mem_cons, asks]
    simp [Term.Asks, Operator.Asks]

theorem prints_listed {requirements : List Requirement} (legal : ∀ r ∈ requirements, r.IsLegal) :
    ∃ texts terms, requirements.mapM Requirement.text = .ok texts ∧ List.Forall₂ Prints texts terms ∧
      ∀ labels, (∀ term ∈ terms, term.Asks labels) ↔ ∀ r ∈ requirements, r.Matches labels := by
  induction requirements with
  | nil => exact ⟨[], [], rfl, .nil, fun labels => by simp⟩
  | cons r rest ih =>
    rw [List.forall_mem_cons] at legal
    obtain ⟨texts, terms, texted, printed, asks⟩ := ih legal.2
    obtain ⟨text, term, done, one, means⟩ := legal.1.isPrinted
    refine ⟨text :: texts, term :: terms, ?_, .cons one printed, fun labels => ?_⟩
    · rw [List.mapM_cons, done, texted]
      rfl
    · rw [List.forall_mem_cons, List.forall_mem_cons, asks, means]

/-- The text of a selector is a query, and the query selects what the selector picks. -/
theorem IsLegal.read_back (legal : s.IsLegal) :
    ∃ text terms, s.text = .ok text ∧ terms? text = some terms ∧
      ∀ labels, (∀ term ∈ terms, term.Asks labels) ↔ s.picks labels = .ok true := by
  obtain ⟨first, printed_pairs, asks_pairs⟩ := prints_pairs legal.1
  obtain ⟨texts, second, texted, printed_listed, asks_listed⟩ := prints_listed legal.2
  refine ⟨_, first ++ second, ?_, terms?_join (List.rel_append printed_pairs printed_listed),
    fun labels => ?_⟩
  · rw [text, ← pairs, ← listed, texted]
    rfl
  · rw [List.forall_mem_append, asks_pairs, asks_listed, picks_eq_true_iff, Matches]

end LabelSelector

end ClusterBackup.Cluster
