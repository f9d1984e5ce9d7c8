import ClusterBackup.Proofs.Time.Calendar
import ClusterBackup.Proofs.Time.Seconds
import ClusterBackup.Time.Rfc3339
import Mathlib.Data.Nat.Digits.Defs

/-! Instants as text: what is written of an instant is read as that instant.

Each field is written with as many digits as its reader takes, and ends where the next sign begins. -/

set_option autoImplicit false

namespace ClusterBackup

open Number Text

namespace Number

variable {n width : Nat} {cs : List Char}

theorem digit_of_mem_padded {c : Char} (member : c ∈ padded width n) : isDigit c := by
  rcases List.mem_append.mp member with zero | digit
  · rw [List.eq_of_mem_replicate zero]
    rfl
  · exact isDigit_of_mem digit

theorem valueOf_padded (width n : Nat) : valueOf (padded width n) = n := by
  have zeros (k : Nat) (ds : List Char) : valueOf (List.replicate k '0' ++ ds) = valueOf ds := by
    induction k with
    | zero => rfl
    | succ k ih => rw [← ih]; rfl
  rw [padded, zeros, valueOf_digitsOf]

theorem length_padded (positive : 0 < width) (small : n < 10 ^ width) :
    (padded width n).length = width := by
  have short : (digitsOf n).length ≤ width := Nat.toDigits_length 10 n width positive small
  rw [padded, List.length_append, List.length_replicate]
  omega

theorem padded_ne_nil (width n : Nat) : padded width n ≠ [] :=
  List.append_ne_nil_of_right_ne_nil _ (digitsOf_ne_nil n)

theorem valueOf_lt (digits : ∀ c ∈ cs, isDigit c) : valueOf cs < 10 ^ cs.length := by
  induction cs using List.reverseRecOn with
  | nil => exact Nat.one_pos
  | append_singleton front c ih =>
    have last : digitValue c ≤ 9 := by
      have digit := digits c (by simp)
      simp only [isDigit, Bool.and_eq_true, decide_eq_true_eq, Char.le_def, UInt32.le_iff_toNat_le] at digit
      have top : c.toNat ≤ 57 := digit.2
      unfold digitValue
      omega
    have front' := ih fun d member => digits d (by simp [member])
    rw [valueOf, List.foldl_append, List.length_append, List.length_singleton, Nat.pow_succ]
    change valueOf front * 10 + digitValue c < _
    omega

end Number

namespace Instant

/-! ### Fields -/

variable {n low high width : Nat} {digits rest : List Char}

/-- A number does not go on here. -/
def Stops (rest : List Char) : Prop := ∀ c ∈ rest.head?, isDigit c = false

theorem takeWhile_digits (all : ∀ c ∈ digits, isDigit c) (stops : Stops rest) :
    (digits ++ rest).takeWhile isDigit = digits := by
  rw [List.takeWhile_append_of_pos all]
  cases rest with
  | nil => simp
  | cons c rest => simp [stops c rfl]

theorem numberUpTo_digits (all : ∀ c ∈ digits, isDigit c) (filled : digits ≠ [])
    (fits : digits.length ≤ width) (ends : digits.length = width ∨ Stops rest) :
    numberUpTo width (digits ++ rest) = .ok (valueOf digits, rest) := by
  have taken : ((digits ++ rest).take width).takeWhile isDigit = digits := by
    rw [List.take_append, List.take_of_length_le fits]
    refine takeWhile_digits all fun c first => ?_
    rcases ends with rfl | stops
    · simp at first
    · cases rest with
      | nil => simp at first
      | cons d rest => 
        cases k : width - digits.length with
        | zero => simp [k] at first
        | succ k' => exact stops c (by simpa [k] using first)
  have some : digits ++ rest ≠ [] := List.append_ne_nil_of_left_ne_nil filled rest
  simp only [numberUpTo, taken, if_neg some, if_neg filled, List.drop_left]

theorem skipBlanks_cons {c : Char} (solid : ¬ isBlank c) (rest : List Char) :
    skipBlanks (c :: rest) = c :: rest :=
  List.dropWhile_cons_of_neg solid

theorem skipBlanks_digits (all : ∀ c ∈ digits, isDigit c) (filled : digits ≠ []) (rest : List Char) :
    skipBlanks (digits ++ rest) = digits ++ rest := by
  obtain ⟨c, more, rfl⟩ := List.exists_cons_of_ne_nil filled
  exact skipBlanks_cons (isBlank_of_isDigit (all c List.mem_cons_self)) _

theorem numberUpTo_padded (positive : 0 < width) (small : n < 10 ^ width) (rest : List Char) :
    numberUpTo width (padded width n ++ rest) = .ok (n, rest) := by
  have whole := length_padded positive small
  rw [numberUpTo_digits (fun _ => digit_of_mem_padded) (padded_ne_nil _ _) whole.le (.inl whole),
    valueOf_padded]

theorem field_padded (small : n < 100) (above : low ≤ n) (below : n ≤ high) (rest : List Char) :
    field low high (padded 2 n ++ rest) = .ok (n, rest) := by
  rw [field, skipBlanks_digits (fun _ => digit_of_mem_padded) (padded_ne_nil _ _),
    numberUpTo_padded (by decide) small]
  exact if_pos ⟨above, below⟩

theorem separator_cons {c : Char} (solid : ¬ isBlank c) (rest : List Char) :
    separator c (c :: rest) = .ok ((), rest) := by
  rw [separator, skipBlanks_cons solid]
  exact if_pos rfl

theorem yearField_digits (small : n ≤ 9999) (rest : List Char) :
    yearField (padded 4 n ++ rest) = .ok ((n : Int), rest) := by
  have all : ∀ c ∈ padded 4 n, isDigit c := fun _ => digit_of_mem_padded
  have number := numberUpTo_padded (show 0 < 4 by decide) (show n < 10 ^ 4 by omega) rest
  have fits : least32 ≤ (n : Int) ∧ (n : Int) ≤ greatest32 := by
    unfold least32 greatest32
    omega
  rw [yearField, skipBlanks_digits all (padded_ne_nil _ _)]
  -- The first digit is no sign.
  obtain ⟨c, more, whole⟩ := List.exists_cons_of_ne_nil (padded_ne_nil 4 n)
  have digit := all c (whole ▸ List.mem_cons_self)
  rw [whole] at number ⊢
  split
  case h_1 same =>
    cases same
    cases digit
  case h_2 same =>
    cases same
    cases digit
  case h_3 =>
    rw [number]
    exact if_pos fits

theorem numberUpTo_signed (n : Nat) (rest : List Char) :
    numberUpTo (padded 4 n ++ '-' :: rest).length (padded 4 n ++ '-' :: rest) = .ok (n, '-' :: rest) := by
  have stops : Stops ('-' :: rest) := fun c first => by
    cases first
    rfl
  rw [numberUpTo_digits (fun _ => digit_of_mem_padded) (padded_ne_nil _ _) (by simp) (.inr stops),
    valueOf_padded]

theorem yearField_yearText {year : Int} (inRange : Date.yearsInRange year = true) (rest : List Char) :
    yearField (yearText year ++ '-' :: rest) = .ok (year, '-' :: rest) := by
  simp only [Date.yearsInRange, Bool.and_eq_true, decide_eq_true_eq] at inRange
  have fits : least32 ≤ year ∧ year ≤ greatest32 := by
    unfold least32 greatest32
    omega
  unfold yearText
  by_cases short : 0 ≤ year ∧ year ≤ 9999
  · rw [if_pos short, yearField_digits (by omega), Int.toNat_of_nonneg short.1]
  · rw [if_neg short]
    by_cases before : year < 0
    · have back : -(Int.ofNat year.natAbs) = year := by
        have := Int.ofNat_natAbs_of_nonpos before.le
        simp only [Int.ofNat_eq_natCast]
        omega
      rw [if_pos before, List.cons_append, yearField, skipBlanks_cons (by decide)]
      simp only [numberUpTo_signed, Except.map, back]
      exact if_pos fits
    · have back : Int.ofNat year.natAbs = year := Int.natAbs_of_nonneg (by omega)
      rw [if_neg before, List.cons_append, yearField, skipBlanks_cons (by decide)]
      simp only [numberUpTo_signed, Except.map, back]
      exact if_pos fits

theorem fractionField_padded {unit : Nat} (positive : 0 < width) (short : width ≤ 9)
    (scale : Nat.pow 10 (9 - width) = unit) (small : n < 10 ^ width) (rest : List Char) :
    fractionField ('.' :: (padded width n ++ 'Z' :: rest)) = .ok (n * unit, 'Z' :: rest) := by
  have stops : Stops ('Z' :: rest) := fun c first => by
    cases first
    rfl
  have whole := length_padded positive small
  have number : numberUpTo 9 (padded width n ++ 'Z' :: rest) = .ok (n, 'Z' :: rest) := by
    rw [numberUpTo_digits (fun _ => digit_of_mem_padded) (padded_ne_nil _ _) (whole.le.trans short)
      (.inr stops), valueOf_padded]
  have last : ('Z' :: rest).dropWhile isDigit = 'Z' :: rest := rfl
  simp only [fractionField, number, bind, Except.bind, pure, Except.pure, last, List.length_append, whole,
    Nat.add_sub_cancel, scale]

theorem fractionField_fractionText (small : n < 1000000000) (rest : List Char) :
    fractionField (fractionText n ++ 'Z' :: rest) = .ok (n, 'Z' :: rest) := by
  unfold fractionText
  split
  case isTrue none =>
    rw [none]
    rfl
  split
  case isTrue millis =>
    rw [List.cons_append, fractionField_padded (by decide) (by decide) rfl (by omega),
      Nat.div_mul_cancel (Nat.dvd_of_mod_eq_zero millis)]
  split
  case isTrue micros =>
    rw [List.cons_append, fractionField_padded (by decide) (by decide) rfl (by omega),
      Nat.div_mul_cancel (Nat.dvd_of_mod_eq_zero micros)]
  case isFalse =>
    rw [List.cons_append, fractionField_padded (by decide) (by decide) rfl small, Nat.mul_one]

/-! ### Instants -/

/-- An instant that has a date and a time: its year is in range, and a leap second is the last one of
a minute. -/
structure IsProper (t : Instant) : Prop where
  year : Date.yearsInRange t.date.year = true
  nanos : t.nanos < 2000000000
  leap : 1000000000 ≤ t.nanos → t.seconds % 60 = 59

theorem toList_textWith (t : Instant) (fraction : List Char) : (t.textWith fraction).toList =
    yearText t.date.year ++ '-' :: (padded 2 t.date.month ++ '-' :: (padded 2 t.date.day ++ 'T' ::
      (padded 2 t.timeOfDay.hour ++ ':' :: (padded 2 t.timeOfDay.minute ++ ':' ::
        (padded 2 t.writtenSecond ++ (fraction ++ ['Z'])))))) := by
  simp [textWith]

theorem timeOfDay_lt (t : Instant) :
    t.timeOfDay.hour < 24 ∧ t.timeOfDay.minute < 60 ∧ t.timeOfDay.second < 60 := by
  have day : (t.seconds % 86400).toNat < 86400 := by omega
  simp only [timeOfDay]
  omega

theorem seconds_ofDateTime (t : Instant) : (ofDateTime t.date t.timeOfDay).seconds = t.seconds := by
  have time : ((t.timeOfDay.hour * 60 + t.timeOfDay.minute) * 60 + t.timeOfDay.second : Nat) =
      (t.seconds % 86400).toNat := by
    simp only [timeOfDay]
    omega
  have count : t.date.toDays = t.seconds / 86400 := Date.toDays_ofDays _
  rw [ofDateTime, time, count]
  change t.seconds / 86400 * 86400 + ((t.seconds % 86400).toNat : Int) = t.seconds
  omega

theorem IsProper.second {t : Instant} (proper : t.IsProper) (leap : 1000000000 ≤ t.nanos) :
    t.timeOfDay.second = 59 := by
  have last := proper.leap leap
  simp only [timeOfDay]
  omega

theorem read_text {t : Instant} (proper : t.IsProper) : read t.text = .ok t := by
  obtain ⟨hour, minute, second⟩ := t.timeOfDay_lt
  obtain ⟨month_low, month_high, day_low, day_high⟩ := Date.ofDays_valid (t.seconds / 86400)
  have day_small := day_high.trans (Date.daysInMonth_le _ _)
  have nanos := proper.nanos
  have written : t.writtenSecond ≤ 60 := by
    unfold writtenSecond
    by_cases leap : 1000000000 ≤ t.nanos
    · have last := proper.second leap
      omega
    · omega
  have dash (rest : List Char) : separator '-' ('-' :: rest) = .ok ((), rest) :=
    separator_cons (by decide) rest
  have colon (rest : List Char) : separator ':' (':' :: rest) = .ok ((), rest) :=
    separator_cons (by decide) rest
  have between (rest : List Char) : dateEnd ('T' :: rest) = .ok ((), rest) := rfl
  have utc : offsetField ['Z'] = .ok (0, []) := rfl
  have exists_date : Date.valid? t.date.year t.date.month t.date.day = some t.date :=
    if_pos ⟨proper.year, month_low, month_high, day_low, day_high⟩
  have month_text := fun rest => field_padded (show t.date.month < 100 by unfold date; omega)
    month_low month_high rest
  have day_text := fun rest => field_padded (show t.date.day < 100 by unfold date; omega)
    day_low day_small rest
  have hour_text := fun rest => field_padded (show t.timeOfDay.hour < 100 by omega) (Nat.zero_le _)
    (show t.timeOfDay.hour ≤ 23 by omega) rest
  have minute_text := fun rest => field_padded (show t.timeOfDay.minute < 100 by omega)
    (Nat.zero_le _) (show t.timeOfDay.minute ≤ 59 by omega) rest
  have second_text := fun rest => field_padded (show t.writtenSecond < 100 by omega)
    (Nat.zero_le _) written rest
  have fraction_text := fractionField_fractionText (show t.nanos % 1000000000 < 1000000000 by omega) []
  rw [read, text, toList_textWith]
  simp only [bind, Except.bind, yearField_yearText proper.year, dash, month_text, day_text, between,
    hour_text, colon, minute_text, second_text, fraction_text, utc, exists_date]
  -- A leap second is read as the second before it, with a second of nanoseconds more.
  have split : min t.writtenSecond 59 = t.timeOfDay.second ∧
      t.nanos % 1000000000 + (if t.writtenSecond = 60 then 1000000000 else 0) = t.nanos := by
    unfold writtenSecond
    by_cases leap : 1000000000 ≤ t.nanos
    · have last := proper.second leap
      rw [if_pos (by omega)]
      omega
    · rw [if_neg (by omega)]
      omega
  rw [split.1, split.2, seconds_ofDateTime t, Int.sub_zero]
  exact if_pos proper.year

/-! ### What is read -/

theorem of_bind_ok {α β : Type} {x : Except Unreadable α} {f : α → Except Unreadable β} {b : β}
    (done : x >>= f = .ok b) : ∃ a, x = .ok a ∧ f a = .ok b := by
  cases x with
  | error fault => cases done
  | ok a => exact ⟨a, rfl, done⟩

theorem of_numberUpTo {cs : List Char} (done : numberUpTo width cs = .ok (n, rest)) :
    ∃ digits, (∀ c ∈ digits, isDigit c) ∧ digits.length ≤ width ∧ n = valueOf digits ∧
      cs = digits ++ rest := by
  have start : (cs.take width).takeWhile isDigit <+: cs :=
    (List.takeWhile_prefix _).trans (List.take_prefix _ _)
  have short : ((cs.take width).takeWhile isDigit).length ≤ width :=
    (List.takeWhile_prefix _).length_le.trans (List.length_take_le _ _)
  simp only [numberUpTo] at done
  split at done
  · cases done
  split at done
  · cases done
  cases done
  refine ⟨_, fun c => List.mem_takeWhile_imp, short, rfl, ?_⟩
  exact (List.prefix_iff_eq_append.mp start).symm

theorem lt_of_fractionField {cs : List Char} (done : fractionField cs = .ok (n, rest)) :
    n < 1000000000 := by
  unfold fractionField at done
  split at done
  case h_1 tail =>
    obtain ⟨⟨m, others⟩, number, done⟩ := of_bind_ok done
    cases done
    obtain ⟨digits, all, few, rfl, rfl⟩ := of_numberUpTo number
    have small := valueOf_lt all
    rw [List.length_append, Nat.add_sub_cancel]
    calc valueOf digits * 10 ^ (9 - digits.length)
        < 10 ^ digits.length * 10 ^ (9 - digits.length) :=
          Nat.mul_lt_mul_of_pos_right small (Nat.pow_pos (by decide))
      _ = 10 ^ 9 := by rw [← Nat.pow_add, Nat.add_sub_of_le few]
  case h_2 =>
    cases done
    decide

theorem minutes_of_offsetField {cs : List Char} {offset : Int}
    (done : offsetField cs = .ok (offset, rest)) : offset % 60 = 0 := by
  have minutes {sign : Int} {cs : List Char} (done : hoursAndMinutes sign cs = .ok (offset, rest)) :
      offset % 60 = 0 := by
    obtain ⟨⟨hours, first⟩, -, done⟩ := of_bind_ok done
    obtain ⟨⟨minutes, second⟩, -, done⟩ := of_bind_ok done
    cases done
    push_cast
    rw [← mul_assoc]
    exact Int.mul_emod_left _ _
  -- A zone that is named has no offset. All others are written in hours and minutes.
  unfold offsetField at done
  split at done
  case h_3 => exact minutes done
  case h_4 => exact minutes done
  case h_5 => exact minutes done
  case h_6 =>
    split at done
    · cases done
      rfl
    · cases done
  case h_1 =>
    cases done
    rfl
  case h_2 =>
    cases done
    rfl
  case h_7 => cases done
  case h_8 => cases done

/-- What is read is proper, so it can be written and read again. -/
theorem isProper_of_read {s : String} {t : Instant} (done : read s = .ok t) : t.IsProper := by
  obtain ⟨⟨year, cs⟩, -, done⟩ := of_bind_ok done
  obtain ⟨⟨_, cs⟩, -, done⟩ := of_bind_ok done
  obtain ⟨⟨month, cs⟩, -, done⟩ := of_bind_ok done
  obtain ⟨⟨_, cs⟩, -, done⟩ := of_bind_ok done
  obtain ⟨⟨day, cs⟩, -, done⟩ := of_bind_ok done
  obtain ⟨⟨_, cs⟩, -, done⟩ := of_bind_ok done
  obtain ⟨⟨hour, cs⟩, -, done⟩ := of_bind_ok done
  obtain ⟨⟨_, cs⟩, -, done⟩ := of_bind_ok done
  obtain ⟨⟨minute, cs⟩, -, done⟩ := of_bind_ok done
  obtain ⟨⟨_, cs⟩, -, done⟩ := of_bind_ok done
  obtain ⟨⟨second, cs⟩, -, done⟩ := of_bind_ok done
  obtain ⟨⟨nanos, cs⟩, fraction, done⟩ := of_bind_ok done
  obtain ⟨⟨offset, cs⟩, zone, done⟩ := of_bind_ok done
  have small := lt_of_fractionField fraction
  have minutes := minutes_of_offsetField zone
  dsimp only at done
  generalize extra : (if second = 60 then 1000000000 else 0) = leap at done
  split at done
  · cases done
  split at done
  · cases done
  split at done
  · cases done
  split at done
  · rename_i inRange
    cases done
    refine ⟨inRange, ?_, fun long => ?_⟩
    · dsimp only
      split at extra <;> omega
    · -- There are no more nanoseconds in a second but a leap second, which is read as second 59.
      have last : second = 60 := by
        by_contra other
        rw [if_neg other] at extra
        dsimp only at long
        omega
      simp only [ofDateTime, last]
      push_cast
      omega
  · cases done

theorem parse_text {t : Instant} (proper : t.IsProper) : parse t.text = some t := by
  rw [parse, read_text proper]
  rfl

theorem isProper_of_parse {s : String} {t : Instant} (parsed : parse s = some t) : t.IsProper := by
  unfold parse at parsed
  cases done : read s with
  | error fault =>
    rw [done] at parsed
    cases parsed
  | ok found =>
    rw [done] at parsed
    cases parsed
    exact isProper_of_read done

/-- The beginning of the second, or of the leap second. -/
def wholeSecond (t : Instant) : Instant := ⟨t.seconds, t.nanos / 1000000000 * 1000000000⟩

theorem text_wholeSecond (t : Instant) : t.wholeSecond.text = t.textInSeconds := by
  have written : t.wholeSecond.writtenSecond = t.writtenSecond := by
    unfold writtenSecond
    rw [wholeSecond, Nat.mul_div_cancel _ (by decide)]
    rfl
  have none : t.wholeSecond.nanos % 1000000000 = 0 := Nat.mul_mod_left _ _
  rw [text, none, textInSeconds, textWith, written]
  rfl

theorem IsProper.wholeSecond {t : Instant} (proper : t.IsProper) : t.wholeSecond.IsProper := by
  have nanos := proper.nanos
  refine ⟨proper.year, ?_, fun leap => proper.leap ?_⟩
  · change t.nanos / 1000000000 * 1000000000 < 2000000000
    omega
  · change 1000000000 ≤ t.nanos / 1000000000 * 1000000000 at leap
    omega

theorem textInSeconds_parsed {t : Instant} (proper : t.IsProper) :
    (parse t.textInSeconds).map textInSeconds = some t.textInSeconds := by
  rw [← text_wholeSecond, parse_text proper.wholeSecond, Option.map_some, ← text_wholeSecond,
    Option.some.injEq]
  have again : t.wholeSecond.wholeSecond = t.wholeSecond := by
    rw [Instant.wholeSecond, Instant.wholeSecond, Nat.mul_div_cancel _ (by decide)]
  rw [again]

end Instant

end ClusterBackup
