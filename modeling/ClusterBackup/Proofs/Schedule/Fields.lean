import ClusterBackup.Proofs.Text.Pieces
import ClusterBackup.Proofs.Time.Seconds
import ClusterBackup.Schedule
import Mathlib.Data.Bool.AllAny

/-! Expressions of five fields. What begins like an interval is read as one, and with five fields it
has blanks inside, which no duration has. -/

set_option autoImplicit false

namespace ClusterBackup

open Text

theorem Number.chars_of_natBelow? {bound n : Nat} {s : String} (read : natBelow? bound s = some n) :
    ∀ c ∈ s.toList, c = '+' ∨ isDigit c := by
  have digits {cs : List Char} (value : (natOf? cs).filter (· < bound) = some n) :
      ∀ c ∈ cs, isDigit c := by
    obtain ⟨value, _⟩ := Option.filter_eq_some_iff.mp value
    unfold natOf? at value
    split at value
    · rename_i both
      exact List.all_eq_true.mp both.2
    · cases value
  unfold natBelow? at read
  split at read
  · rename_i rest whole
    rw [whole, List.forall_mem_cons]
    exact ⟨.inl rfl, fun c member => .inr (digits read c member)⟩
  · exact fun c member => .inr (digits read c member)

namespace Duration

variable {cs : List Char} {sum d : Duration}

theorem TimeUnit.solid {unit : List Char} {named : TimeUnit} (known : ofText? unit = some named) :
    ∀ c ∈ unit, ¬ isBlank c := by
  unfold ofText? at known
  split at known <;> first | exact List.all_iff_forall_prop.mp (by decide) | cases known

theorem ofText?_of_term {number unit : List Char} (read : term number unit = .ok d) :
    ∃ named, TimeUnit.ofText? unit = some named := by
  cases known : TimeUnit.ofText? unit with
  | some named => exact ⟨named, rfl⟩
  | none =>
    exfalso
    cases found : numeral? number with
    | none => simp [term, found] at read
    | some parts => simp [term, found, known] at read

theorem isBlank_of_isNumeral {c : Char} (numeral : isNumeral c) : ¬ isBlank c := by
  rcases Bool.or_eq_true _ _ ▸ numeral with digit | point
  · exact Number.isBlank_of_isDigit digit
  · rw [beq_iff_eq.mp point]
    decide

theorem solid_of_terms (read : terms sum cs = .ok d) : ∀ c ∈ cs, ¬ isBlank c := by
  fun_induction terms sum cs with
  | case1 sum => exact fun c member => absurd member List.not_mem_nil
  | case2 => cases read
  | case3 => cases read
  | case4 sum cs _ _ _ ih =>
    -- A term has a number and one of the units, and what follows them are terms again.
    rw [← List.takeWhile_append_dropWhile (p := isNumeral) (l := cs),
      ← List.takeWhile_append_dropWhile (p := (! Number.isDigit ·)) (l := cs.dropWhile isNumeral)]
    cases first : term (cs.takeWhile isNumeral) ((cs.dropWhile isNumeral).takeWhile (! Number.isDigit ·)) with
    | error fault =>
      rw [first] at read
      cases read
    | ok part =>
      simp only [first, bind, Except.bind] at read
      cases added : (sum + part).checked with
      | none =>
        rw [added] at read
        cases read
      | some total =>
        rw [added] at read
        obtain ⟨named, known⟩ := ofText?_of_term first
        intro c member
        rcases List.mem_append.mp member with numeral | later
        · exact isBlank_of_isNumeral (List.mem_takeWhile_imp numeral)
        · rcases List.mem_append.mp later with unit | rest
          · exact TimeUnit.solid known c unit
          · exact ih total read c rest

theorem solid_of_parse {s : String} (read : parse s = .ok d) :
    ∀ c ∈ trimWhile isBlank s.toList, ¬ isBlank c := by
  have chars : (trim s).toList = trimWhile isBlank s.toList := String.toList_ofList
  rw [← chars]
  unfold parse at read
  by_cases empty : (trim s).isEmpty = true
  · rw [if_pos empty] at read
    cases read
  rw [if_neg empty] at read
  cases number : Number.natBelow? Number.limit64 (trim s) with
  | none =>
    rw [number] at read
    exact solid_of_terms read
  | some seconds =>
    intro c member
    rcases Number.chars_of_natBelow? number c member with plus | digit
    · rw [plus]
      decide
    · exact Number.isBlank_of_isDigit digit

end Duration

namespace Schedule

variable {expression minute hour day month weekday : String}

theorem toList_of_after? {start s rest : String} (found : after? start s = some rest) :
    s.toList = start.toList ++ rest.toList := by
  unfold after? at found
  split at found
  · rename_i begins
    obtain rfl := Option.some.inj found
    rw [String.toList_ofList]
    obtain ⟨rest, whole⟩ := List.isPrefixOf_iff_prefix.mp begins
    rw [← whole, List.drop_left]
  · cases found

theorem interval_of_fields (fields : words expression = [minute, hour, day, month, weekday])
    {rest : String} (begins : after? "@every" expression = some rest) {d : Duration} :
    Duration.parse rest ≠ .ok d := by
  intro read
  have few : (words expression).length ≤ 2 := by
    rw [words, List.length_map, toList_of_after? begins]
    exact length_wordsOf_append_le (List.all_iff_forall_prop.mp (by decide)) (Duration.solid_of_parse read)
  rw [fields] at few
  simp at few

/-- An expression whose field of days is refused is refused, and named as it was given. -/
theorem parse_of_refused (fields : words expression = [minute, hour, day, month, weekday])
    {reason : String} (refused : shiftDaysOfWeek weekday = .error reason) :
    ∃ reason, parse expression = .error (.invalidSchedule expression reason) := by
  have trimmed : words (trim expression) = [minute, hour, day, month, weekday] :=
    (words_trim expression).trans fields
  suffices failed : ∃ reason, parseTrimmed (trim expression) = .error reason by
    obtain ⟨reason, failed⟩ := failed
    exact ⟨reason, by rw [parse, failed]; rfl⟩
  unfold parseTrimmed
  cases begins : after? "@every" (trim expression) with
  | none =>
    refine ⟨reason, ?_⟩
    simp [normalize, trimmed, refused, bind, Except.bind]
  | some rest =>
    cases read : Duration.parse rest with
    | error fault => exact ⟨"validation error: " ++ fault.message rest, by simp only [read]⟩
    | ok d => exact absurd read (interval_of_fields trimmed begins)

end Schedule

end ClusterBackup
