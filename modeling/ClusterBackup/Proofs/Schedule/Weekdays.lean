import ClusterBackup.Proofs.Schedule.Fields
import Mathlib.Tactic.IntervalCases

/-! Days of the week in the classic form, with 0 and 7 for Sunday, and the form they are rewritten to,
with 1 for Sunday.

The classic form is given by a grammar and by what its items cover. What an item is rewritten to is read
by the grammar of calendar expressions. -/

set_option autoImplicit false

namespace ClusterBackup.Schedule.Weekdays

open Number Text

/-! ### The classic form -/

/-- What an item begins with: every day, one day, or the days from one to another. -/
inductive Extent where
  | every
  | day (a : Nat)
  | range (a b : Nat)
  deriving DecidableEq, Repr

/-- The days of an extent, or every n-th of them. -/
structure Item where
  extent : Extent
  step : Option Nat := none
  deriving DecidableEq, Repr

namespace Item

variable (i : Item)

def first : Nat :=
  match i.extent with
  | .every => 0
  | .day a | .range a _ => a

/-- With a step one day runs to Saturday, and 7 is a Sunday that nothing comes after. -/
def last : Nat :=
  match i.extent, i.step with
  | .every, _ => 6
  | .day a, none => a
  | .day a, some _ => if a = 7 then 7 else 6
  | .range _ b, _ => b

/-- The days of the week from 0, Sunday, to 6, Saturday, that the item stands for. -/
def Covers (day : Nat) : Prop :=
  ∃ k, i.first + k * i.step.getD 1 ≤ i.last ∧ day = (i.first + k * i.step.getD 1) % 7

end Item

/-- A number that 32 bits hold. -/
def Numeral (text : String) (n : Nat) : Prop := natBelow? limit32 text = some n

instance (text : String) (n : Nat) : Decidable (Numeral text n) :=
  inferInstanceAs (Decidable (natBelow? limit32 text = some n))

inductive Extent.Reads : String → Extent → Prop where
  | star : Reads "*" .every
  | question : Reads "?" .every
  | day {s : String} {a : Nat} : Numeral s a → a ≤ 7 → Reads s (.day a)
  | range {s t : String} {a b : Nat} : Numeral s a → Numeral t b → a ≤ b → b ≤ 7 →
      Reads (s ++ "-" ++ t) (.range a b)

/-- The grammar of items. -/
inductive Item.Reads : String → Item → Prop where
  | plain {s : String} {e : Extent} : Extent.Reads s e → Reads s ⟨e, none⟩
  | step {s t : String} {e : Extent} {n : Nat} : Extent.Reads s e → Numeral t n → 1 ≤ n →
      Reads (s ++ "/" ++ t) ⟨e, some n⟩

def IsNumeric (item : String) : Prop :=
  (∀ c ∈ item.toList, ¬ c.isAlpha) ∧ item ≠ "*" ∧ item ≠ "?"

/-- What stands before the step of an item. -/
def baseOf (item : String) : String := ((cutChar '/' item).map (·.1)).getD item

/-- The days that a base names. -/
def daysOf (base : String) : List String :=
  match cutChar '-' base with
  | some (first, last) => [first, last]
  | none => if isBareStar base then [] else [base]

/-- What can be wrong with an item. -/
inductive Malformed (item : String) : Prop where
  | empty : item = "" → Malformed item
  | step {base step : String} : cutChar '/' item = some (base, step) →
      natBelow? limit32 step = none → Malformed item
  | zero {base step : String} : cutChar '/' item = some (base, step) → Numeral step 0 → Malformed item
  | day {text : String} : text ∈ daysOf (baseOf item) → natBelow? limit32 text = none → Malformed item
  | range {text : String} {n : Nat} : text ∈ daysOf (baseOf item) → Numeral text n → 7 < n →
      Malformed item
  | backwards {s t : String} {a b : Nat} : cutChar '-' (baseOf item) = some (s, t) → Numeral s a →
      Numeral t b → b < a → Malformed item

/-! ### Texts of the grammar -/

section

variable {s t : String} {a b n : Nat} {e : Extent} {i : Item}

theorem Numeral.chars (read : Numeral s n) : ∀ c ∈ s.toList, c = '+' ∨ isDigit c :=
  chars_of_natBelow? read

theorem Numeral.notMem (read : Numeral s n) {c : Char} (sign : c ≠ '+') (other : isDigit c = false) :
    c ∉ s.toList := by
  intro member
  rcases read.chars c member with plus | digit
  · exact sign plus
  · rw [other] at digit
    cases digit

theorem natBelow?_eq_some_iff {bound : Nat} (within : bound ≤ limit32) :
    natBelow? bound s = some n ↔ Numeral s n ∧ n < bound := by
  simp only [Numeral, natBelow?, Option.filter_eq_some_iff, decide_eq_true_eq]
  constructor
  · rintro ⟨value, below⟩
    exact ⟨⟨value, lt_of_lt_of_le below within⟩, below⟩
  · rintro ⟨⟨value, _⟩, below⟩
    exact ⟨value, below⟩

theorem classicDay?_of_numeral (read : Numeral s a) (small : a ≤ 7) : classicDay? s = .ok a := by
  rw [classicDay?, (natBelow?_eq_some_iff (by decide)).mpr ⟨read, Nat.lt_succ_of_le small⟩]

theorem Numeral.isBareStar_eq (read : Numeral s n) : isBareStar s = false := by
  refine Bool.eq_false_iff.mpr fun bare => ?_
  rcases Bool.or_eq_true _ _ ▸ bare with star | question
  · have none : natBelow? limit32 "*" = none := by decide
    rw [Numeral, beq_iff_eq.mp star, none] at read
    cases read
  · have none : natBelow? limit32 "?" = none := by decide
    rw [Numeral, beq_iff_eq.mp question, none] at read
    cases read

theorem Extent.Reads.chars (reads : Extent.Reads s e) :
    ∀ c ∈ s.toList, c = '*' ∨ c = '?' ∨ c = '-' ∨ c = '+' ∨ isDigit c := by
  cases reads with
  | star => exact List.all_iff_forall_prop.mp (by decide)
  | question => exact List.all_iff_forall_prop.mp (by decide)
  | day read _ => exact fun c member => .inr (.inr (.inr (read.chars c member)))
  | range first last _ _ =>
    intro c member
    simp only [String.toList_append, List.mem_append] at member
    rcases member with (left | dash) | right
    · exact .inr (.inr (.inr (first.chars c left)))
    · exact .inr (.inr (.inl (by simpa using dash)))
    · exact .inr (.inr (.inr (last.chars c right)))

theorem isAlpha_of_isDigit {c : Char} (digit : isDigit c) : ¬ c.isAlpha := by
  -- Digits are from 48 to 57, below the letters of both cases.
  have range : 48 ≤ c.toNat ∧ c.toNat ≤ 57 := by
    simpa [isDigit, Char.le_def, UInt32.le_iff_toNat_le] using digit
  have upper : c.isUpper = decide (c.val ≥ 'A'.val ∧ c.val ≤ 'Z'.val) := rfl
  have lower : c.isLower = (decide (c.val ≥ 'a'.val) && decide (c.val ≤ 'z'.val)) := rfl
  have alpha : c.isAlpha = (c.isUpper || c.isLower) := rfl
  simp only [alpha, upper, lower, Bool.or_eq_true, Bool.and_eq_true, decide_eq_true_eq, ge_iff_le,
    UInt32.le_iff_toNat_le]
  change ¬ (65 ≤ c.toNat ∧ c.toNat ≤ 90 ∨ 97 ≤ c.toNat ∧ c.toNat ≤ 122)
  omega

theorem Extent.Reads.notMem_slash (reads : Extent.Reads s e) : '/' ∉ s.toList :=
  fun member => absurd (reads.chars '/' member) (by decide)

theorem isAlpha_of_extent {c : Char} (kind : c = '*' ∨ c = '?' ∨ c = '-' ∨ c = '+' ∨ isDigit c) :
    ¬ c.isAlpha := by
  rcases kind with rfl | rfl | rfl | rfl | digit
  · decide
  · decide
  · decide
  · decide
  · exact isAlpha_of_isDigit digit

theorem Item.Reads.letterless (reads : Item.Reads s i) : s.toList.any Char.isAlpha = false := by
  rw [List.any_eq_false]
  cases reads with
  | plain reads => exact fun c member => isAlpha_of_extent (reads.chars c member)
  | step reads read _ =>
    intro c member
    simp only [String.toList_append, List.mem_append] at member
    rcases member with (left | slash) | right
    · exact isAlpha_of_extent (reads.chars c left)
    · obtain rfl : c = '/' := by simpa using slash
      decide
    · exact isAlpha_of_extent (.inr (.inr (.inr (read.chars c right))))

/-! ### From a text to its days -/

theorem dayBounds_of_reads (reads : Extent.Reads s e) (step : Option Nat) :
    dayBounds s step = .ok (Item.first ⟨e, step⟩, Item.last ⟨e, step⟩) := by
  cases reads with
  | star => rfl
  | question => rfl
  | @day _ a read small =>
    rw [dayBounds, cutChar_of_absent _ (read.notMem (by decide) (by decide))]
    simp only [read.isBareStar_eq, classicDay?_of_numeral read small, bind, Except.bind]
    cases step with
    | none => rfl
    | some n =>
      -- A step from one day goes on until Saturday, and from Sunday as 7 it goes nowhere.
      have saturday : max 6 a = if a = 7 then 7 else 6 := by split <;> omega
      simp only [Item.first, Item.last, ← saturday]
      rfl
  | @range s t a b first last order small =>
    have cut : cutChar '-' (s ++ "-" ++ t) = some (s, t) :=
      cutChar_append s t (first.notMem (by decide) (by decide))
    rw [dayBounds, cut]
    simp only [classicDay?_of_numeral first (order.trans small), classicDay?_of_numeral last small,
      bind, Except.bind]
    rfl

theorem splitStep_plain (reads : Extent.Reads s e) : splitStep s = .ok (s, none) := by
  rw [splitStep, cutChar_of_absent _ reads.notMem_slash]

theorem splitStep_step (reads : Extent.Reads s e) (read : Numeral t n) (positive : 1 ≤ n) :
    splitStep (s ++ "/" ++ t) = .ok (s, some n) := by
  have cut : cutChar '/' (s ++ "/" ++ t) = some (s, t) := cutChar_append s t reads.notMem_slash
  rw [Numeral] at read
  obtain ⟨m, rfl⟩ := Nat.exists_eq_add_of_le' positive
  simp only [splitStep, cut, read]

theorem mem_everyNth {n a b x : Nat} :
    x ∈ Calendar.everyNth n (Calendar.Range.between a b) ↔ ∃ k, x = a + k * n ∧ x ≤ b := by
  have listed (i : Nat) : (x, i) ∈ (Calendar.Range.between a b).zipIdx ↔ x = a + i ∧ x ≤ b := by
    rw [List.mem_zipIdx_iff_getElem?, Calendar.Range.between]
    by_cases inside : i < b + 1 - a
    · rw [List.getElem?_range' inside, Option.some_inj]
      omega
    · rw [List.getElem?_eq_none (by simpa using inside)]
      simp only [reduceCtorEq, false_iff]
      omega
  rw [Calendar.everyNth, List.mem_map]
  constructor
  · rintro ⟨⟨_, i⟩, reached, rfl⟩
    obtain ⟨there, whole⟩ := List.mem_filter.mp reached
    obtain ⟨rfl, below⟩ := (listed i).mp there
    have divided := Nat.div_mul_cancel (Nat.dvd_of_mod_eq_zero (of_decide_eq_true whole))
    exact ⟨i / n, by rw [divided], below⟩
  · rintro ⟨k, rfl, below⟩
    refine ⟨(a + k * n, k * n), List.mem_filter.mpr ⟨(listed _).mpr ⟨rfl, below⟩, ?_⟩, rfl⟩
    exact decide_eq_true (Nat.mul_mod_left k n)

theorem shiftDay_eq (small : n ≤ 7) : shiftDay n = n % 7 + 1 := by
  unfold shiftDay
  split <;> omega

theorem mem_daysOfWeek {d : Nat} : d ∈ Calendar.daysOfWeek.all ↔ 1 ≤ d ∧ d ≤ 7 := by
  rw [Calendar.Range.all, Calendar.Range.between, List.mem_range'_1]
  change 1 ≤ d ∧ d < 1 + (7 + 1 - 1) ↔ _
  omega

theorem Item.Covers.lt {day : Nat} (covers : i.Covers day) : day < 7 := by
  obtain ⟨k, _, rfl⟩ := covers
  exact Nat.mod_lt _ (by decide)

theorem Item.covers_first (order : i.first ≤ i.last) : i.Covers (i.first % 7) :=
  ⟨0, by omega, by rw [Nat.zero_mul, Nat.add_zero]⟩

theorem shiftedDays_of_bounds {base : String} (cut : splitStep s = .ok (base, i.step))
    (bounds : dayBounds base i.step = .ok (i.first, i.last)) (order : i.first ≤ i.last)
    (small : i.last ≤ 7) :
    ∃ days, shiftedDays s = .ok days ∧ ∀ d, d ∈ days ↔ ∃ n, i.Covers n ∧ d = n + 1 := by
  let reached := Calendar.everyNth (i.step.getD 1) (Calendar.Range.between i.first i.last)
  refine ⟨Calendar.daysOfWeek.all.filter ((reached.map shiftDay).contains ·), ?_, fun d => ?_⟩
  · simp only [shiftedDays, cut, bounds, bind, Except.bind, Nat.not_lt.mpr order, if_false, pure,
      Except.pure]
    rfl
  · rw [List.mem_filter, mem_daysOfWeek, List.contains_iff_mem, List.mem_map]
    constructor
    · rintro ⟨_, x, reached, rfl⟩
      obtain ⟨k, rfl, below⟩ := mem_everyNth.mp reached
      exact ⟨_, ⟨k, below, rfl⟩, shiftDay_eq (below.trans small)⟩
    · rintro ⟨n, covers, rfl⟩
      have inside := covers.lt
      obtain ⟨k, below, rfl⟩ := covers
      exact ⟨⟨by omega, by omega⟩, _, mem_everyNth.mpr ⟨k, rfl, below⟩, shiftDay_eq (below.trans small)⟩

theorem Extent.Reads.order (reads : Extent.Reads s e) (step : Option Nat) :
    Item.first ⟨e, step⟩ ≤ Item.last ⟨e, step⟩ ∧ Item.last ⟨e, step⟩ ≤ 7 := by
  cases reads with
  | star => exact ⟨Nat.zero_le 6, Nat.le_succ 6⟩
  | question => exact ⟨Nat.zero_le 6, Nat.le_succ 6⟩
  | day _ small =>
    cases step with
    | none => exact ⟨Nat.le_refl _, small⟩
    | some n =>
      simp only [Item.first, Item.last]
      split <;> omega
  | range _ _ order small => exact ⟨order, small⟩

theorem shiftedDays_of_reads (reads : Item.Reads s i) :
    ∃ days, shiftedDays s = .ok days ∧ i.first ≤ i.last ∧
      ∀ d, d ∈ days ↔ ∃ n, i.Covers n ∧ d = n + 1 := by
  cases reads with
  | plain reads =>
    obtain ⟨order, small⟩ := reads.order none
    obtain ⟨days, shifted, exact'⟩ :=
      shiftedDays_of_bounds (splitStep_plain reads) (dayBounds_of_reads reads none) order small
    exact ⟨days, shifted, order, exact'⟩
  | @step _ _ _ n reads read positive =>
    obtain ⟨order, small⟩ := reads.order (some n)
    obtain ⟨days, shifted, exact'⟩ := shiftedDays_of_bounds (splitStep_step reads read positive)
      (dayBounds_of_reads reads (some n)) order small
    exact ⟨days, shifted, order, exact'⟩

end

/-! ### What is written is read -/

/-- The items of calendar expressions that classic ones are rewritten to. -/
inductive Shows : Char → Calendar.Item → Prop where
  | star : Shows '*' (.plain .all)
  | question : Shows '?' (.plain .all)
  | day {d : Nat} : 1 ≤ d → d ≤ 7 → Shows (Nat.digitChar d) (.plain (.point d))

section

variable {c : Char} {p : Calendar.Item} {cs : List Char} {ps : List Calendar.Item}

/-- What comes after an item: a comma before each of the items that follow. -/
def after (cs : List Char) : List Char := cs.flatMap fun c => [',', c]

theorem item_shows (shows' : Shows c p) (cs : List Char) :
    Calendar.item true (c :: after cs) = some (p, after cs) := by
  cases cs with
  | nil =>
    cases shows' with
    | star => rfl
    | question => rfl
    | day low high => interval_cases ‹Nat› <;> rfl
  | cons next rest =>
    cases shows' with
    | star => rfl
    | question => rfl
    | day low high => interval_cases ‹Nat› <;> rfl

theorem length_after (cs : List Char) : cs.length ≤ (after cs).length := by
  induction cs with
  | nil => exact Nat.le_refl 0
  | cons c rest ih => simp only [after, List.flatMap_cons, List.length_append, List.length_cons] at ih ⊢; omega

theorem moreItems_shows (shown : List.Forall₂ Shows cs ps) {bound : Nat} (room : cs.length ≤ bound) :
    Calendar.moreItems true bound (after cs) = (ps, []) := by
  -- Each item takes a comma and itself, and one of the bound, which is at least their number.
  induction shown generalizing bound with
  | nil => cases bound <;> rfl
  | @cons c p cs ps first _ ih =>
    obtain ⟨left, rfl⟩ := Nat.exists_eq_add_of_lt (Nat.lt_of_lt_of_le (Nat.lt_succ_self _) room)
    have next := item_shows first cs
    simp only [after, List.flatMap_cons, List.cons_append, List.nil_append] at next ⊢
    simp only [Calendar.moreItems, Calendar.symbol, if_true, next, Option.bind_eq_bind, Option.bind_some]
    rw [← after, ih (by simp)]

theorem Shows.skipSpaces (shows' : Shows c p) (cs : List Char) :
    Calendar.skipSpaces (c :: cs) = c :: cs := by
  cases shows' with
  | star => rfl
  | question => rfl
  | day low high => interval_cases ‹Nat› <;> rfl

theorem items_shows (shown : List.Forall₂ Shows (c :: cs) (p :: ps)) :
    Calendar.items true (c :: after cs) = some (p :: ps, []) := by
  obtain ⟨first, more⟩ := List.forall₂_cons.mp shown
  simp only [Calendar.items, first.skipSpaces, item_shows first, Option.bind_eq_bind, Option.bind_some,
    moreItems_shows more (length_after cs)]
  rfl

/-- A day that one of the items stands for, from 1, Sunday, to 7, Saturday. -/
def Denotes (ps : List Calendar.Item) (d : Nat) : Prop :=
  ∃ p ∈ ps, ∃ days, p.numbers? Calendar.daysOfWeek = some days ∧ d ∈ days

theorem numbers?_point {d : Nat} (low : 1 ≤ d) (high : d ≤ 7) :
    (Calendar.Item.plain (.point d)).numbers? Calendar.daysOfWeek = some [d] := by
  have inside : Calendar.daysOfWeek.has d = true := by
    simp [Calendar.Range.has, Calendar.daysOfWeek, low, high]
  exact if_pos inside

theorem denotes_points {days : List Nat} (inside : ∀ d ∈ days, 1 ≤ d ∧ d ≤ 7) (d : Nat) :
    Denotes (days.map (.plain <| .point ·)) d ↔ d ∈ days := by
  constructor
  · rintro ⟨_, member, listed, read, there⟩
    obtain ⟨e, present, rfl⟩ := List.mem_map.mp member
    rw [numbers?_point (inside e present).1 (inside e present).2] at read
    cases read
    exact List.mem_singleton.mp there ▸ present
  · intro present
    exact ⟨_, List.mem_map_of_mem present, [d], numbers?_point (inside d present).1 (inside d present).2,
      List.mem_singleton_self d⟩

theorem Shows.numbers? (shows' : Shows c p) :
    ∃ days, p.numbers? Calendar.daysOfWeek = some days ∧ ∀ d ∈ days, 1 ≤ d ∧ d ≤ 7 := by
  cases shows' with
  | star => exact ⟨_, rfl, fun d => mem_daysOfWeek.mp⟩
  | question => exact ⟨_, rfl, fun d => mem_daysOfWeek.mp⟩
  | @day d low high => exact ⟨[d], numbers?_point low high, by simp [low, high]⟩

theorem chosen_shows (shown : List.Forall₂ Shows cs ps) :
    ∃ chosen, ps.mapM (·.numbers? Calendar.daysOfWeek) = some chosen ∧
      ∀ d, (d ∈ chosen.flatten ↔ Denotes ps d) ∧ (d ∈ chosen.flatten → 1 ≤ d ∧ d ≤ 7) := by
  induction shown with
  | nil => exact ⟨[], rfl, by simp [Denotes]⟩
  | cons first _ ih =>
    obtain ⟨chosen, read, same⟩ := ih
    obtain ⟨days, number, inside⟩ := first.numbers?
    refine ⟨days :: chosen, by simp [List.mapM_cons, number, read], fun d => ?_⟩
    rw [List.flatten_cons, List.mem_append, (same d).1]
    refine ⟨by simp [Denotes, number], fun either => either.elim (inside d) fun later => ?_⟩
    exact (same d).2 ((same d).1.mpr later)

/-- Items that are written one after the other are read as the days that they denote. -/
theorem field_shows (shown : List.Forall₂ Shows (c :: cs) (p :: ps)) :
    ∃ days, Calendar.field Calendar.daysOfWeek true (c :: after cs) = some (days, []) ∧
      ∀ d, d ∈ days ↔ Denotes (p :: ps) d := by
  obtain ⟨chosen, read, same⟩ := chosen_shows shown
  refine ⟨Calendar.daysOfWeek.all.filter (chosen.flatten.contains ·), ?_, fun d => ?_⟩
  · simp [Calendar.field, Calendar.numbers?, items_shows shown, read]
  · rw [List.mem_filter, List.contains_iff_mem, mem_daysOfWeek, (same d).1]
    exact and_iff_right_of_imp fun denoted => (same d).2 ((same d).1.mpr denoted)

theorem joinWith_after (c : Char) (cs : List Char) :
    joinWith [','] ((c :: cs).map fun c => [c]) = c :: after cs := by
  induction cs generalizing c with
  | nil => rfl
  | cons next rest ih =>
    rw [List.map_cons, List.map_cons, joinWith_cons_cons]
    exact congrArg ([c] ++ [','] ++ ·) (ih next)

end

/-! ### Items and fields -/

section

variable {s : String} {i : Item}

/-- The text of an item is rewritten to characters that denote its days, each one later. -/
inductive Shifts (s : String) (i : Item) : Prop where
  | intro (cs : List Char) (ps : List Calendar.Item) :
    shiftItem s = .ok (cs.map (String.ofList [·])) → cs ≠ [] → List.Forall₂ Shows cs ps →
    (∀ d, Denotes ps d ↔ ∃ n, i.Covers n ∧ d = n + 1) → Shifts s i

theorem isBareStar_of_mem {c : Char} (member : c ∈ s.toList) (star : c ≠ '*') (question : c ≠ '?') :
    isBareStar s = false := by
  refine Bool.eq_false_iff.mpr fun bare => ?_
  rcases Bool.or_eq_true _ _ ▸ bare with same | same
  · rw [beq_iff_eq.mp same] at member
    exact star (List.mem_singleton.mp member)
  · rw [beq_iff_eq.mp same] at member
    exact question (List.mem_singleton.mp member)

theorem shiftItem_bare {c : Char} {p : Calendar.Item} (shows' : Shows c p)
    (every : p.numbers? Calendar.daysOfWeek = some Calendar.daysOfWeek.all)
    (bare : isBareStar (String.ofList [c]) = true) :
    Shifts (String.ofList [c]) ⟨.every, none⟩ := by
  have kept : shiftItem (String.ofList [c]) = .ok [String.ofList [c]] := by
    simp only [shiftItem, bare, Bool.or_true, if_true]
  refine ⟨[c], [p], kept, nofun, .cons shows' .nil, fun d => ?_⟩
  have all : Denotes [p] d ↔ d ∈ Calendar.daysOfWeek.all := by simp [Denotes, every]
  rw [all, mem_daysOfWeek]
  constructor
  · rintro ⟨low, high⟩
    refine ⟨d - 1, ⟨d - 1, ?_, ?_⟩, by omega⟩
    · change 0 + (d - 1) * 1 ≤ 6
      omega
    · change d - 1 = (0 + (d - 1) * 1) % 7
      omega
  · rintro ⟨n, covers, rfl⟩
    have inside := covers.lt
    omega

theorem textOf_day {d : Nat} (high : d ≤ 7) : textOf d = String.ofList [Nat.digitChar d] := by
  interval_cases d <;> rfl

theorem shiftItem_numbers (reads : Item.Reads s i) (other : isBareStar s = false) : Shifts s i := by
  obtain ⟨days, shifted, order, same⟩ := shiftedDays_of_reads reads
  have inside (d : Nat) (listed : d ∈ days) : 1 ≤ d ∧ d ≤ 7 := by
    obtain ⟨n, covers, rfl⟩ := (same d).mp listed
    have below := covers.lt
    omega
  have texts : days.map textOf = (days.map Nat.digitChar).map (String.ofList [·]) := by
    rw [List.map_map]
    exact List.map_congr_left fun d listed => textOf_day (inside d listed).2
  refine ⟨days.map Nat.digitChar, days.map (.plain <| .point ·), ?_, ?_, ?_, fun d => ?_⟩
  · simp only [shiftItem, reads.letterless, other, shifted, Bool.false_or, Bool.false_eq_true, if_false,
      bind, Except.bind, ← texts]
    rfl
  · intro none
    -- The first day of the item is covered, so at least one is written.
    have first := (same _).mpr ⟨_, i.covers_first order, rfl⟩
    rw [List.map_eq_nil_iff.mp none] at first
    exact List.not_mem_nil first
  · rw [List.forall₂_map_left_iff, List.forall₂_map_right_iff, List.forall₂_same]
    exact fun d listed => .day (inside d listed).1 (inside d listed).2
  · rw [denotes_points inside, same]

theorem shiftItem_reads (reads : Item.Reads s i) : Shifts s i := by
  cases reads with
  | plain extent =>
    cases extent with
    | star => exact shiftItem_bare .star rfl rfl
    | question => exact shiftItem_bare .question rfl rfl
    | day read small => exact shiftItem_numbers (.plain (.day read small)) read.isBareStar_eq
    | range first last order small =>
      refine shiftItem_numbers (.plain (.range first last order small))
        (isBareStar_of_mem (c := '-') (by simp) (by decide) (by decide))
  | step extent read positive =>
    exact shiftItem_numbers (.step extent read positive)
      (isBareStar_of_mem (c := '/') (by simp) (by decide) (by decide))

theorem shiftItems_reads {texts : List String} {items : List Item}
    (reads : List.Forall₂ Item.Reads texts items) :
    ∃ lists cs ps, texts.mapM shiftItem = .ok lists ∧ lists.flatten = cs.map (String.ofList [·]) ∧
      (texts ≠ [] → cs ≠ []) ∧ List.Forall₂ Shows cs ps ∧
      ∀ d, Denotes ps d ↔ ∃ i ∈ items, ∃ n, i.Covers n ∧ d = n + 1 := by
  induction reads with
  | nil => exact ⟨[], [], [], rfl, rfl, fun none => absurd rfl none, .nil, by simp [Denotes]⟩
  | cons first _ ih =>
    obtain ⟨lists, cs, ps, shifted, texts, _, shown, same⟩ := ih
    obtain ⟨cs', ps', shifted', some', shown', same'⟩ := shiftItem_reads first
    refine ⟨cs'.map (String.ofList [·]) :: lists, cs' ++ cs, ps' ++ ps, ?_, ?_, ?_,
      List.rel_append shown' shown, fun d => ?_⟩
    · simp only [List.mapM_cons, shifted, shifted', bind, Except.bind]
      rfl
    · rw [List.flatten_cons, texts, List.map_append]
    · exact fun _ => List.append_ne_nil_of_left_ne_nil some' cs
    · have either : Denotes (ps' ++ ps) d ↔ Denotes ps' d ∨ Denotes ps d := by
        simp only [Denotes, List.mem_append, or_and_right, exists_or]
      rw [either, same, same', List.exists_mem_cons_iff]

end

/-! ### What is refused -/

section

variable {item : String}

theorem Numeral.unique {text : String} {m n : Nat} (left : Numeral text m) (right : Numeral text n) :
    m = n :=
  Option.some.inj (left.symm.trans right)

theorem splitStep_cases (item : String) :
    (∃ reason, splitStep item = .error reason ∧ Malformed item) ∨
      ∃ step, splitStep item = .ok (baseOf item, step) ∧
        ∀ base text, cutChar '/' item = some (base, text) → ∃ n, Numeral text n ∧ n ≠ 0 := by
  unfold splitStep
  cases cut : cutChar '/' item with
  | none => exact .inr ⟨none, by simp [baseOf, cut], nofun⟩
  | some parts =>
    obtain ⟨base, text⟩ := parts
    cases read : natBelow? limit32 text with
    | none => exact .inl ⟨"invalid day-of-week step in " ++ quote item, by simp only [read], .step cut read⟩
    | some n =>
      cases n with
      | zero => exact .inl ⟨"zero day-of-week step in " ++ quote item, by simp only [read], .zero cut read⟩
      | succ n =>
        refine .inr ⟨some (n + 1), by simp [baseOf, cut, read], ?_⟩
        rintro _ _ same
        cases same
        exact ⟨n + 1, read, Nat.succ_ne_zero n⟩

theorem classicDay?_cases (text : String) :
    (∃ reason, classicDay? text = .error reason ∧
        ∀ item, text ∈ daysOf (baseOf item) → Malformed item) ∨
      ∃ a, classicDay? text = .ok a ∧ Numeral text a ∧ a ≤ 7 := by
  cases read : natBelow? limit32 text with
  | none =>
    have small : natBelow? 8 text = none := Option.eq_none_iff_forall_ne_some.mpr fun a small => by
      have known := ((natBelow?_eq_some_iff (by decide)).mp small).1
      rw [Numeral, read] at known
      cases known
    exact .inl ⟨_, by rw [classicDay?, small], fun _ member => .day member read⟩
  | some a =>
    by_cases small : a ≤ 7
    · exact .inr ⟨a, classicDay?_of_numeral read small, read, small⟩
    · have large : natBelow? 8 text = none := Option.eq_none_iff_forall_ne_some.mpr fun b below => by
        obtain ⟨known, bounded⟩ := (natBelow?_eq_some_iff (by decide)).mp below
        have same := Numeral.unique read known
        omega
      exact .inl ⟨_, by rw [classicDay?, large], fun _ member => .range member read (by omega)⟩

theorem dayBounds_cases (item : String) (step : Option Nat) :
    (∃ reason, dayBounds (baseOf item) step = .error reason ∧ Malformed item) ∨
      ∃ first last, dayBounds (baseOf item) step = .ok (first, last) ∧
        (∀ text ∈ daysOf (baseOf item), ∃ n, Numeral text n ∧ n ≤ 7) ∧
        (last < first ↔ ∃ s t a b, cutChar '-' (baseOf item) = some (s, t) ∧ Numeral s a ∧
          Numeral t b ∧ b < a) := by
  -- A range has two ends to be read and a star has none. Everything else is a single day.
  unfold dayBounds
  cases cut : cutChar '-' (baseOf item) with
  | some ends =>
    obtain ⟨s, t⟩ := ends
    have both : daysOf (baseOf item) = [s, t] := by rw [daysOf, cut]
    rcases classicDay?_cases s with ⟨reason, refused, bad⟩ | ⟨a, known, left, small⟩
    · exact .inl ⟨reason, by simp only [refused]; rfl, bad item (by simp [both])⟩
    rcases classicDay?_cases t with ⟨reason, refused, bad⟩ | ⟨b, known', right, small'⟩
    · exact .inl ⟨reason, by simp only [known, refused]; rfl, bad item (by simp [both])⟩
    refine .inr ⟨a, b, by simp only [known, known']; rfl, ?_, ?_⟩
    · rw [both]
      simp only [List.forall_mem_cons, List.not_mem_nil, false_imp_iff, implies_true, and_true]
      exact ⟨⟨a, left, small⟩, b, right, small'⟩
    · refine ⟨fun back => ⟨s, t, a, b, rfl, left, right, back⟩, ?_⟩
      rintro ⟨_, _, a', b', same, left', right', back⟩
      cases same
      rwa [left.unique left', right.unique right']
  | none =>
    have never : ¬ ∃ s t a b, (none : Option (String × String)) = some (s, t) ∧ Numeral s a ∧
        Numeral t b ∧ b < a := by
      rintro ⟨_, _, _, _, same, _⟩
      cases same
    by_cases bare : isBareStar (baseOf item) = true
    · have named : daysOf (baseOf item) = [] := by simp [daysOf, cut, bare]
      exact .inr ⟨0, 6, by simp only [bare]; rfl, by simp [named], iff_of_false (by decide) never⟩
    · have named : daysOf (baseOf item) = [baseOf item] := by simp [daysOf, cut, bare]
      rcases classicDay?_cases (baseOf item) with ⟨reason, refused, bad⟩ | ⟨a, known, read, small⟩
      · exact .inl ⟨reason, by simp only [bare, refused]; rfl, bad item (by simp [named])⟩
      · refine .inr ⟨a, if step.isSome then max 6 a else a, by simp only [bare, known]; rfl, ?_, ?_⟩
        · simpa [named] using ⟨a, read, small⟩
        · refine iff_of_false ?_ never
          split <;> omega

theorem shiftedDays_error_iff :
    (∃ reason, shiftedDays item = .error reason) ↔ Malformed item := by
  unfold shiftedDays
  rcases splitStep_cases item with ⟨reason, refused, bad⟩ | ⟨step, cut, stepped⟩
  · exact iff_of_true ⟨reason, by simp only [refused]; rfl⟩ bad
  rcases dayBounds_cases item step with ⟨reason, refused, bad⟩ | ⟨first, last, bounds, named, order⟩
  · exact iff_of_true ⟨reason, by simp only [cut, refused, bind, Except.bind]⟩ bad
  by_cases back : last < first
  · obtain ⟨s, t, a, b, ends, left, right, less⟩ := order.mp back
    refine iff_of_true ⟨"day-of-week range " ++ quote (baseOf item) ++ " runs backwards", ?_⟩
      (.backwards ends left right less)
    simp only [cut, bounds, back, if_true, bind, Except.bind]
    rfl
  · refine iff_of_false ?_ ?_
    · rintro ⟨reason, refused⟩
      simp [cut, bounds, back, bind, Except.bind, pure, Except.pure] at refused
    · -- All that an item can be refused for has been ruled out on the way here.
      intro bad
      cases bad with
      | empty same =>
        subst same
        obtain ⟨n, read, _⟩ := named "" (by decide)
        have none : natBelow? limit32 "" = none := by decide
        cases none.symm.trans read
      | step cut' none =>
        obtain ⟨n, read, _⟩ := stepped _ _ cut'
        cases none.symm.trans read
      | zero cut' none =>
        obtain ⟨n, read, positive⟩ := stepped _ _ cut'
        exact positive (read.unique none)
      | day member none =>
        obtain ⟨n, read, _⟩ := named _ member
        cases none.symm.trans read
      | range member known large =>
        obtain ⟨n, read, small⟩ := named _ member
        have same := read.unique known
        omega
      | backwards ends left right less => exact back (order.mpr ⟨_, _, _, _, ends, left, right, less⟩)

theorem isBareStar_eq_false_iff : isBareStar item = false ↔ item ≠ "*" ∧ item ≠ "?" := by
  simp [isBareStar]

theorem shiftItem_error_iff :
    (∃ reason, shiftItem item = .error reason) ↔ IsNumeric item ∧ Malformed item := by
  unfold shiftItem
  by_cases kept : (item.toList.any Char.isAlpha || isBareStar item) = true
  · -- Names of days and the bare marks stay as they are, so nothing is refused here.
    rw [if_pos kept]
    refine iff_of_false (by simp) fun ⟨⟨letterless, bare⟩, _⟩ => ?_
    rcases Bool.or_eq_true _ _ ▸ kept with letter | star
    · obtain ⟨c, member, alpha⟩ := List.any_eq_true.mp letter
      exact letterless c member alpha
    · rw [isBareStar_eq_false_iff.mpr bare] at star
      cases star
  · rw [if_neg kept]
    have numeric : IsNumeric item := by
      obtain ⟨letterless, bare⟩ := Bool.or_eq_false_iff.mp (Bool.eq_false_iff.mpr kept)
      exact ⟨List.any_eq_false.mp letterless, isBareStar_eq_false_iff.mp bare⟩
    rw [and_iff_right numeric, ← shiftedDays_error_iff]
    cases shiftedDays item <;> simp [bind, Except.bind, pure, Except.pure]

theorem mapM_error_iff {α β ε : Type} (f : α → Except ε β) (xs : List α) :
    (∃ reason, xs.mapM f = .error reason) ↔ ∃ x ∈ xs, ∃ reason, f x = .error reason := by
  induction xs with
  | nil => simp [pure, Except.pure]
  | cons x rest ih =>
    rw [List.mapM_cons, List.exists_mem_cons_iff, ← ih]
    cases f x with
    | error reason => simp [bind, Except.bind]
    | ok y => cases rest.mapM f <;> simp [bind, Except.bind, pure, Except.pure]

/-- A field is refused for an item that is malformed, and for nothing else. -/
theorem shiftDaysOfWeek_error_iff (field : String) :
    (∃ reason, shiftDaysOfWeek field = .error reason) ↔
      ∃ item ∈ splitChar ',' field, IsNumeric item ∧ Malformed item := by
  simp only [← shiftItem_error_iff, ← mapM_error_iff, shiftDaysOfWeek]
  cases (splitChar ',' field).mapM shiftItem <;> simp [bind, Except.bind, pure, Except.pure]

end

/-- A field of classic items is rewritten to one that denotes the same days of the week, one later as 1
is Sunday now. A field with a malformed item is refused, and every expression with that field is
named as it was given. -/
theorem weekdays_translated (field : String) :
    (∀ items, List.Forall₂ Item.Reads (splitChar ',' field) items →
      ∃ rewritten days, shiftDaysOfWeek field = .ok rewritten ∧
        Calendar.field Calendar.daysOfWeek true rewritten.toList = some (days, []) ∧
        ∀ d, d ∈ days ↔ ∃ i ∈ items, ∃ n, i.Covers n ∧ d = n + 1) ∧
    ((∃ item ∈ splitChar ',' field, IsNumeric item ∧ Malformed item) →
      (∃ reason, shiftDaysOfWeek field = .error reason) ∧
      ∀ expression minute hour day month, words expression = [minute, hour, day, month, field] →
        ∃ reason, parse expression = .error (.invalidSchedule expression reason)) := by
  constructor
  · intro items reads
    obtain ⟨lists, cs, ps, shifted, texts, present, shown, same⟩ := shiftItems_reads reads
    have some' : splitChar ',' field ≠ [] := by
      rw [splitChar, Ne, List.map_eq_nil_iff]
      exact splitAt_ne_nil _ _
    obtain ⟨c, cs, rfl⟩ := List.exists_cons_of_ne_nil (present some')
    cases shown with
    | @cons _ p _ ps first more =>
      obtain ⟨days, read, denoted⟩ := field_shows (.cons first more)
      refine ⟨_, days, by simp only [shiftDaysOfWeek, shifted, bind, Except.bind]; rfl, ?_, fun d => ?_⟩
      · have chars : (lists.flatten).map String.toList = (c :: cs).map fun c => [c] := by
          rw [texts, List.map_map]
          exact List.map_congr_left fun c _ => String.toList_ofList
        rw [join, String.toList_ofList, chars]
        exact (congrArg _ (joinWith_after c cs)).trans read
      · rw [denoted, same]
  · intro bad
    obtain ⟨reason, refused⟩ := (shiftDaysOfWeek_error_iff field).mpr bad
    exact ⟨⟨reason, refused⟩, fun expression _ _ _ _ fields => parse_of_refused fields refused⟩

def weekend : List Item := [⟨.range 5 7, none⟩, ⟨.day 0, some 4⟩]

/-- A range that goes through Sunday, and a step that begins with it. -/
theorem weekdays_translated_weekend :
    List.Forall₂ Item.Reads (splitChar ',' "5-7,0/4") weekend ∧
    shiftDaysOfWeek "5-7,0/4" = .ok "1,6,7,1,5" ∧
    (∀ d, d ∈ [1, 5, 6, 7] ↔ ∃ i ∈ weekend, ∃ n, i.Covers n ∧ d = n + 1) ∧
    ∃ reason, parse "0 2 * * 1,5-2" = .error (.invalidSchedule "0 2 * * 1,5-2" reason) := by
  have reads : List.Forall₂ Item.Reads (splitChar ',' "5-7,0/4") weekend := by
    have range := Item.Reads.plain (Extent.Reads.range (show Numeral "5" 5 by decide)
      (show Numeral "7" 7 by decide) (by decide) (by decide))
    have step := Item.Reads.step (Extent.Reads.day (show Numeral "0" 0 by decide) (by decide))
      (show Numeral "4" 4 by decide) (by decide)
    exact .cons range (.cons step .nil)
  have bad : Malformed "5-2" := .backwards (show cutChar '-' (baseOf "5-2") = some ("5", "2") by decide)
    (show Numeral "5" 5 by decide) (show Numeral "2" 2 by decide) (by decide)
  have shifted : shiftDaysOfWeek "5-7,0/4" = .ok "1,6,7,1,5" := by decide
  refine ⟨reads, shifted, ?_, ?_⟩
  · obtain ⟨rewritten, days, known, read, same⟩ := (weekdays_translated _).1 weekend reads
    obtain rfl := Except.ok.inj (shifted.symm.trans known)
    have found : Calendar.field Calendar.daysOfWeek true "1,6,7,1,5".toList = some ([1, 5, 6, 7], []) := by
      decide
    obtain ⟨rfl, _⟩ := Prod.mk.inj (Option.some.inj (found.symm.trans read))
    exact same
  · exact ((weekdays_translated "1,5-2").2 ⟨"5-2", by decide,
      ⟨List.all_iff_forall_prop.mp (by decide), by decide⟩, bad⟩).2
      "0 2 * * 1,5-2" "0" "2" "*" "*" (by decide)

end ClusterBackup.Schedule.Weekdays
