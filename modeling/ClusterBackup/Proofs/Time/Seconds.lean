import ClusterBackup.Proofs.Number.Rounding
import ClusterBackup.Proofs.Text.Trim
import ClusterBackup.Time.DurationText

/-! Numbers and whole seconds as text, and what is read back from it. -/

set_option autoImplicit false

namespace ClusterBackup

open Number Text

namespace Number

variable {n : Nat} {c : Char}

theorem isDigit_of_mem (member : c ∈ digitsOf n) : isDigit c :=
  Nat.isDigit_of_mem_toDigits (by decide) (by decide) member

theorem digitsOf_ne_nil (n : Nat) : digitsOf n ≠ [] := Nat.toDigits_ne_nil

theorem valueOf_digitsOf (n : Nat) : valueOf (digitsOf n) = n := by
  have value := Nat.ofDigitChars_ten_toDigits (n := n)
  simp only [Nat.ofDigitChars_eq_foldl, Nat.mul_comm] at value
  exact value

theorem natOf?_digitsOf (n : Nat) : natOf? (digitsOf n) = some n := by
  have digits : (digitsOf n).all isDigit := List.all_eq_true.mpr fun _ => isDigit_of_mem
  rw [natOf?, if_pos ⟨digitsOf_ne_nil n, digits⟩, valueOf_digitsOf]

theorem isBlank_of_isDigit (digit : isDigit c) : ¬ isBlank c := by
  have range : 48 ≤ c.toNat ∧ c.toNat ≤ 57 := by
    simpa [isDigit, Char.le_def, UInt32.le_iff_toNat_le] using digit
  simp only [isBlank, Bool.or_eq_true, Bool.and_eq_true, decide_eq_true_eq, beq_iff_eq]
  omega

theorem exists_digit (n : Nat) : ∃ c rest, digitsOf n = c :: rest ∧ c ≠ '+' ∧ c ≠ '-' := by
  obtain ⟨c, rest, whole⟩ := List.exists_cons_of_ne_nil (digitsOf_ne_nil n)
  have digit : isDigit c := isDigit_of_mem (whole ▸ List.mem_cons_self)
  refine ⟨c, rest, whole, ?_, ?_⟩ <;> rintro rfl <;> revert digit <;> decide

theorem intWithin?_textOf {high : Int} (bounded : (n : Int) ≤ high) :
    intWithin? 0 high (textOf n) = some n := by
  obtain ⟨c, rest, whole, plus, minus⟩ := exists_digit n
  have value := natOf?_digitsOf n
  rw [intWithin?, textOf, String.toList_ofList]
  rw [whole] at value ⊢
  simp [value, bounded, plus, minus]

theorem ofDecimal_digitsOf (n : Nat) : Binary64.ofDecimal (digitsOf n) [] = Binary64.ofNat n := by
  have value : (digitsOf n).foldl (fun n c => n * 10 + (c.toNat - 48)) 0 = n := valueOf_digitsOf n
  simp only [Binary64.ofDecimal, List.append_nil, value]
  rfl

end Number

namespace Duration

variable {n : Nat}

theorem ofFloating_eq {x : Binary64} (whole : x.numerator = n * x.denominator) :
    ofFloating x = (ofSeconds n).checked := by
  have positive : 0 < x.denominator := Nat.two_pow_pos _
  have nanos : x.numerator * 1000000000 = n * 1000000000 * x.denominator := by
    rw [whole, Nat.mul_right_comm]
  rw [ofFloating, nanos, roundQuotient_mul_self _ positive, ofSeconds]

theorem numeral?_digitsOf (n : Nat) : numeral? (digitsOf n) = some (digitsOf n, []) := by
  have all : (digitsOf n).takeWhile isDigit = digitsOf n :=
    List.takeWhile_eq_self_iff.mpr fun _ => isDigit_of_mem
  have none : (digitsOf n).dropWhile isDigit = [] :=
    List.dropWhile_eq_nil_iff.mpr fun _ => isDigit_of_mem
  simp [numeral?, all, none, digitsOf_ne_nil]

/-- The nearest number of seconds that floating point has, if it is representable. -/
def nearestSeconds (n : Nat) : Option Duration := (ofSeconds (Binary64.nearest n)).checked

theorem term_eq {number unit whole fraction : List Char} {named : TimeUnit}
    {value scale product : Binary64} (read : numeral? number = some (whole, fraction))
    (known : TimeUnit.ofText? unit = some named)
    (converted : Binary64.ofDecimal whole fraction = some value)
    (scaled : named.seconds = some scale) (multiplied : value.mul scale = some product) :
    term number unit = match ofFloating product with
      | some d => .ok d
      | none => .error .outOfRange := by
  simp -implicitDefEqProofs only [term, read, known, converted, scaled, Option.bind_eq_bind, Option.bind_some,
    multiplied]
  cases ofFloating product <;> rfl

theorem seconds_second : TimeUnit.second.seconds = some Binary64.one := by decide +kernel

theorem term_seconds (bounded : Nat.log2 n < 1023) :
    term (digitsOf n) ['s'] = match nearestSeconds n with
      | some d => .ok d
      | none => .error .outOfRange := by
  obtain ⟨x, converted, canonical, whole⟩ := Binary64.ofNat_eq bounded
  rw [← ofDecimal_digitsOf] at converted
  rw [term_eq (numeral?_digitsOf n) rfl converted seconds_second (Binary64.mul_one canonical),
    ofFloating_eq whole, nearestSeconds]

theorem natBelow?_seconds (bound n : Nat) :
    natBelow? bound (String.ofList (digitsOf n ++ ['s'])) = none := by
  obtain ⟨c, rest, whole, plus, _⟩ := exists_digit n
  have unit : isDigit 's' = false := by decide
  rw [natBelow?, String.toList_ofList, whole]
  simp [natOf?, plus, unit]

theorem zero_add (d : Duration) : zero + d = d := by
  obtain ⟨nanos⟩ := d
  exact congrArg Duration.mk (Nat.zero_add nanos)

theorem checked_checked {d e : Duration} (checked : d.checked = some e) : e.checked = some e := by
  unfold Duration.checked at *
  split at checked
  · rename_i representable
    cases checked
    exact if_pos representable
  · cases checked

theorem terms_nil (d : Duration) : terms d [] = .ok d := by rw [terms, if_pos rfl]

theorem terms_seconds {result : Except DurationError Duration}
    (read : term (digitsOf n) ['s'] = result)
    (bounded : ∀ d, result = .ok d → d.checked = some d) :
    terms zero (digitsOf n ++ ['s']) = result := by
  have numeral : ∀ c ∈ digitsOf n, isNumeral c := fun c member => by
    simp [isNumeral, isDigit_of_mem member]
  have number : (digitsOf n ++ ['s']).takeWhile isNumeral = digitsOf n := by
    rw [List.takeWhile_append_of_pos numeral]
    exact List.append_nil _
  have unit : (digitsOf n ++ ['s']).dropWhile isNumeral = ['s'] := by
    rw [List.dropWhile_append_of_pos numeral]
    rfl
  have whole : ['s'].takeWhile (! isDigit ·) = ['s'] := by decide
  have rest : ['s'].dropWhile (! isDigit ·) = [] := by decide
  rw [terms]
  simp only [number, unit, whole, rest, digitsOf_ne_nil, read]
  cases result with
  | error fault => simp [Bind.bind, Except.bind]
  | ok d => simp [Bind.bind, Except.bind, zero_add, bounded d rfl, terms_nil]

theorem parse_seconds (bounded : Nat.log2 n < 1023) :
    parse (textOf n ++ "s") = match nearestSeconds n with
      | some d => .ok d
      | none => .error .outOfRange := by
  have kept : ∀ c ∈ digitsOf n ++ ['s'], ¬ isBlank c := by
    intro c member
    rcases List.mem_append.mp member with digit | unit
    · exact isBlank_of_isDigit (isDigit_of_mem digit)
    · rw [List.mem_singleton.mp unit]
      decide
  have text : trim (textOf n ++ "s") = String.ofList (digitsOf n ++ ['s']) := by
    have chars : (textOf n ++ "s").toList = digitsOf n ++ ['s'] := by
      rw [String.toList_append, textOf, String.toList_ofList]
      rfl
    rw [trim, onChars, chars, trimWhile_of_none kept]
  have present : (String.ofList (digitsOf n ++ ['s'])).isEmpty = false := by
    simp
  simp only [parse, text, present, natBelow?_seconds, String.toList_ofList]
  refine (if_neg (by simp)).trans (terms_seconds (term_seconds bounded) fun d read => ?_)
  cases fits : nearestSeconds n with
  | none =>
    rw [fits] at read
    cases read
  | some e =>
    rw [fits] at read
    cases read
    exact checked_checked fits

/-- Only whole seconds with few bits are found again. -/
theorem nearestSeconds_eq_some_iff {d : Duration} (representable : d.IsRepresentable) :
    nearestSeconds d.seconds = some d ↔ d.subsecond = 0 ∧ Binary64.IsExact d.seconds := by
  have whole : d.nanos = d.seconds * 1000000000 + d.subsecond :=
    (Nat.div_add_mod' d.nanos 1000000000).symm
  have inside : d.subsecond < 1000000000 := Nat.mod_lt _ (by decide)
  rw [← Binary64.nearest_eq_self_iff]
  constructor
  · intro found
    have same : ofSeconds (Binary64.nearest d.seconds) = d := by
      unfold nearestSeconds Duration.checked at found
      split at found
      · exact Option.some.inj found
      · cases found
    have nanos : Binary64.nearest d.seconds * 1000000000 = d.nanos := congrArg Duration.nanos same
    omega
  · rintro ⟨none, kept⟩
    have nanos : d.seconds * 1000000000 = d.nanos := by omega
    have same : ofSeconds d.seconds = d := congrArg Duration.mk nanos
    rw [nearestSeconds, kept, same]
    exact if_pos representable

theorem log2_seconds {d : Duration} (representable : d.IsRepresentable) :
    Nat.log2 d.seconds < 1023 := by
  have bounded : d.seconds < 2 ^ 64 := Nat.div_lt_of_lt_mul (by
    have limit : d.nanos < limit64 * 1000000000 := representable
    omega)
  rcases Nat.eq_zero_or_pos d.seconds with none | positive
  · rw [none]
    decide
  · exact lt_trans ((Nat.log2_lt positive.ne').mpr bounded) (by decide)

end Duration

end ClusterBackup
