import ClusterBackup.Proofs.Number.Decimal
import ClusterBackup.Proofs.Time.Floating
import ClusterBackup.Proofs.Time.Terms

/-! Durations as text: hours, minutes and seconds, or one number of a smaller unit.

The fractions go through floating point, and the text is exact all the same: the numbers are so small
that each is nearer to its decimal than half a unit of the last place that is written. -/

set_option autoImplicit false

namespace ClusterBackup.Duration

open Number Binary64

/-! ### The length of time that a text stands for -/

def TimeUnit.nanos : TimeUnit → Nat
  | .nanosecond => 1
  | .microsecond => 1000
  | .millisecond => 1000000
  | .second => 1000000000
  | .minute => 60 * 1000000000
  | .hour => 3600 * 1000000000

/-- A term in exact arithmetic, in nanoseconds. -/
def Measures (number unit : List Char) (nanos : ℚ) : Prop :=
  ∃ x named, IsNumber number x ∧ TimeUnit.ofText? unit = some named ∧ nanos = x * named.nanos

theorem Measures.functional (number unit : List Char) (a b : ℚ) (first : Measures number unit a)
    (second : Measures number unit b) : a = b := by
  obtain ⟨x, named, counted, known, rfl⟩ := first
  obtain ⟨y, named', counted', known', rfl⟩ := second
  rw [known] at known'
  cases known'
  rw [counted.unique counted']

theorem isTerm_of_isNumber {number unit : List Char} {x : ℚ} {named : TimeUnit} (counted : IsNumber number x)
    (known : TimeUnit.ofText? unit = some named) : IsTerm number unit := by
  obtain ⟨filled, letters, -⟩ := TimeUnit.letters_of_ofText? known
  obtain ⟨c, more, rfl⟩ := List.exists_cons_of_ne_nil filled
  refine ⟨?_, ?_, fun d member => ?_, c, more, rfl, letters c List.mem_cons_self⟩
  · cases counted with
    | whole _ all => exact fun d member => isNumeral_of_isDigit (all d member)
    | point _ all _ all' =>
      intro d member
      rcases List.mem_append.mp member with digit | behind
      · exact isNumeral_of_isDigit (all d digit)
      · rcases List.mem_cons.mp behind with rfl | digit
        · rfl
        · exact isNumeral_of_isDigit (all' d digit)
  · cases counted with
    | whole present => exact present
    | point => simp
  · by_contra digit
    have letter := letters d member
    rw [isNumeral_of_isDigit (Bool.not_eq_false _ ▸ digit)] at letter
    cases letter

theorem starts_of_isNumber {number : List Char} {x : ℚ} (counted : IsNumber number x) (rest : List Char) :
    Starts (number ++ rest) := by
  cases counted with
  | whole present all =>
    obtain ⟨c, more, rfl⟩ := List.exists_cons_of_ne_nil present
    intro d first
    cases first
    exact all _ List.mem_cons_self
  | point present all =>
    obtain ⟨c, more, rfl⟩ := List.exists_cons_of_ne_nil present
    intro d first
    cases first
    exact all _ List.mem_cons_self

theorem Sums.measure {number rest : List Char} {x y : ℚ} (unit : List Char) {named : TimeUnit}
    (counted : IsNumber number x) (known : TimeUnit.ofText? unit = some named) (starts : Starts rest)
    (sums : Sums Measures rest y) : Sums Measures (number ++ unit ++ rest) (x * named.nanos + y) :=
  .term (isTerm_of_isNumber counted known) starts ⟨x, named, counted, known, rfl⟩ sums

/-- The form that a length of time is written in. Below a second there is one number, in the largest
unit that gives at least one; from a second on there are seconds, and minutes and hours in front if
there are any. Only the last number has a fraction. -/
inductive IsCanonical : List Char → ℚ → Prop where
  | zero : IsCanonical ['0', 's'] 0
  | nanoseconds {n : Nat} : 1 ≤ n → n < 1000 → IsCanonical (digitsOf n ++ ['n', 's']) n
  | microseconds {number : List Char} {x : ℚ} : IsDecimal 3 number x → 1 ≤ x → x < 1000 →
      IsCanonical (number ++ ['µ', 's']) (x * 1000)
  | milliseconds {number : List Char} {x : ℚ} : IsDecimal 6 number x → 1 ≤ x → x < 1000 →
      IsCanonical (number ++ ['m', 's']) (x * 1000000)
  | seconds {number : List Char} {x : ℚ} : IsDecimal 9 number x → 1 ≤ x → x < 60 →
      IsCanonical (number ++ ['s']) (x * 1000000000)
  | minutes {m : Nat} {number : List Char} {x : ℚ} : 1 ≤ m → m < 60 →
      IsDecimal 9 number x → 0 ≤ x → x < 60 →
      IsCanonical (digitsOf m ++ ['m'] ++ (number ++ ['s'])) ((60 * m + x) * 1000000000)
  | hours {h m : Nat} {number : List Char} {x : ℚ} : 1 ≤ h → m < 60 →
      IsDecimal 9 number x → 0 ≤ x → x < 60 →
      IsCanonical (digitsOf h ++ ['h'] ++ (digitsOf m ++ ['m'] ++ (number ++ ['s'])))
        ((3600 * h + 60 * m + x) * 1000000000)

theorem isNumber_digitsOf (n : Nat) : IsNumber (digitsOf n) n := by
  have whole : IsDecimal 0 (digitsOf n) n := .whole n
  exact whole.isNumber

theorem IsCanonical.sums {cs : List Char} {nanos : ℚ} (canonical : IsCanonical cs nanos) :
    Sums Measures cs nanos := by
  have single {number : List Char} {x : ℚ} (unit : List Char) {named : TimeUnit}
      (counted : IsNumber number x) (known : TimeUnit.ofText? unit = some named) :
      Sums Measures (number ++ unit) (x * named.nanos) := by
    simpa using Sums.measure unit counted known starts_nil .nil
  have seconds {number : List Char} {x : ℚ} (decimal : IsDecimal 9 number x) :
      Sums Measures (number ++ ['s']) (x * 1000000000) := by
    simpa [TimeUnit.nanos] using single ['s'] decimal.isNumber rfl
  have minutes (m : Nat) {number : List Char} {x : ℚ} (decimal : IsDecimal 9 number x) :
      Sums Measures (digitsOf m ++ ['m'] ++ (number ++ ['s'])) ((60 * m + x) * 1000000000) := by
    convert Sums.measure ['m'] (isNumber_digitsOf m) rfl (starts_of_isNumber decimal.isNumber _) (seconds decimal)
      using 1
    simp only [TimeUnit.nanos]
    push_cast
    ring
  -- Longer forms have a number in front of shorter ones, so they are built up from the seconds.
  cases canonical with
  | zero =>
    have none := single ['s'] (isNumber_digitsOf 0) rfl
    rw [Nat.cast_zero, zero_mul] at none
    exact none
  | nanoseconds => simpa [TimeUnit.nanos] using single ['n', 's'] (isNumber_digitsOf _) rfl
  | microseconds decimal => simpa [TimeUnit.nanos] using single ['µ', 's'] decimal.isNumber rfl
  | milliseconds decimal => simpa [TimeUnit.nanos] using single ['m', 's'] decimal.isNumber rfl
  | seconds decimal => exact seconds decimal
  | minutes _ _ decimal => exact minutes _ decimal
  | @hours h m number x _ _ decimal =>
    have starts : Starts (digitsOf m ++ ['m'] ++ (number ++ ['s'])) := by
      rw [List.append_assoc]
      exact starts_of_isNumber (isNumber_digitsOf m) _
    convert Sums.measure ['h'] (isNumber_digitsOf h) rfl starts (minutes m decimal) using 1
    simp only [TimeUnit.nanos]
    push_cast
    ring

/-! ### What is written -/

theorem belowMinute_lt (d : Duration) : d.belowMinute.nanos < 60 * 1000000000 := by
  have part := d.subsecond_lt
  have minute : d.seconds % 60 < 60 := Nat.mod_lt _ (by decide)
  simp only [belowMinute]
  omega

theorem nanos_eq_units (d : Duration) : d.nanos =
    (3600 * (d.seconds / 3600) + 60 * (d.seconds % 3600 / 60)) * 1000000000 + d.belowMinute.nanos := by
  rw [nanos_eq]
  simp only [belowMinute]
  omega

theorem brief_belowMinute (d : Duration) :
    IsDecimal 9 (brief 9 d.belowMinute.toFloating) (d.belowMinute.nanos / (1000000000 : Nat)) := by
  have short : d.belowMinute.seconds < 2 ^ 6 := by
    have below := d.belowMinute_lt
    rw [seconds]
    omega
  obtain ⟨x, converted, near⟩ := toFloating_of_lt short (by decide)
  have small : (2 : ℚ) ^ ((6 : Nat) - 54 : Int) + 2 ^ (-54 : Int) < 1 / (2 * (1000000000 : Nat)) := by
    norm_num
  rw [converted]
  exact brief_of_near 9 (by decide) (near.trans_lt small)

theorem brief_inUnit (d : Duration) (places : Nat) (positive : 0 < places) (short : places ≤ 6)
    (below : d.nanos < 10 ^ places * 1000) :
    IsDecimal places (brief places (d.inUnit (10 ^ places))) (d.nanos / (10 ^ places : Nat)) := by
  have unit : 10 ^ places ≤ 1000000 := Nat.pow_le_pow_right (n := 10) (by decide) short
  have room : 1000000 * 1000 < 2 ^ 53 := by decide
  have few : d.nanos < 10 ^ places * 2 ^ 10 := below.trans_le (Nat.mul_le_mul_left _ (by decide))
  obtain ⟨x, converted, near⟩ := inUnit_of_lt (by positivity) (by omega) (by omega) few (by decide)
  have small : (2 : ℚ) ^ ((10 : Nat) - 54 : Int) < 1 / (2 * (10 ^ places : Nat)) := by
    have scale : ((10 ^ places : Nat) : ℚ) ≤ 1000000 := by exact_mod_cast unit
    have present : (0 : ℚ) < (10 ^ places : Nat) := by positivity
    calc (2 : ℚ) ^ ((10 : Nat) - 54 : Int) < 1 / (2 * 1000000) := by norm_num
      _ ≤ 1 / (2 * (10 ^ places : Nat)) := one_div_le_one_div_of_le (by linarith) (by linarith)
  rw [converted]
  exact brief_of_near places positive (near.trans_lt small)

/-- A duration is written in the canonical form. -/
theorem isCanonical_text (d : Duration) : IsCanonical d.text.toList d.nanos := by
  have minute := d.belowMinute_lt
  have units := d.nanos_eq_units
  have whole : d.seconds = d.nanos / 1000000000 := rfl
  have seconds := d.brief_belowMinute
  have high : (d.belowMinute.nanos : ℚ) < 60 * 1000000000 := by exact_mod_cast minute
  have low : (0 : ℚ) ≤ d.belowMinute.nanos / 1000000000 := div_nonneg (Nat.cast_nonneg _) (by norm_num)
  have split : (d.nanos : ℚ) = (3600 * (d.seconds / 3600 : Nat) + 60 * (d.seconds % 3600 / 60 : Nat) +
      d.belowMinute.nanos / 1000000000) * 1000000000 := by
    rw [add_mul, div_mul_cancel₀ _ (by norm_num)]
    exact_mod_cast units
  rw [Nat.cast_ofNat] at seconds
  rw [text, String.toList_ofList]
  -- Each test but the last two finds the unit, and with it a number between one and a thousand.
  split_ifs with none nanos micros millis short hourless
  · rw [none]
    exact_mod_cast IsCanonical.zero
  · exact .nanoseconds (Nat.pos_of_ne_zero none) nanos
  · have number := d.brief_inUnit 3 (by decide) (by decide) (by omega)
    have low : (1000 : ℚ) ≤ d.nanos := by exact_mod_cast Nat.not_lt.mp nanos
    have high : (d.nanos : ℚ) < 1000000 := by exact_mod_cast micros
    norm_num at number
    have canonical := IsCanonical.microseconds number (by linarith) (by linarith)
    rwa [div_mul_cancel₀ _ (by norm_num)] at canonical
  · have number := d.brief_inUnit 6 (by decide) (by decide) (by omega)
    have low : (1000000 : ℚ) ≤ d.nanos := by exact_mod_cast Nat.not_lt.mp micros
    have high : (d.nanos : ℚ) < 1000000000 := by exact_mod_cast millis
    norm_num at number
    have canonical := IsCanonical.milliseconds number (by linarith) (by linarith)
    rwa [div_mul_cancel₀ _ (by norm_num)] at canonical
  · have same : d.nanos = d.belowMinute.nanos := by omega
    have low : (1000000000 : ℚ) ≤ d.belowMinute.nanos := by
      exact_mod_cast same ▸ Nat.not_lt.mp millis
    have canonical := IsCanonical.seconds seconds (by linarith) (by linarith)
    rwa [div_mul_cancel₀ _ (by norm_num), ← same] at canonical
  · have none : d.seconds / 3600 = 0 := Nat.div_eq_of_lt hourless
    have same : (d.nanos : ℚ) =
        (60 * (d.seconds % 3600 / 60 : Nat) + d.belowMinute.nanos / 1000000000) * 1000000000 := by
      simpa [none] using split
    rw [same]
    exact .minutes (by omega) (by omega) seconds low (by linarith)
  · have canonical := IsCanonical.hours (h := d.seconds / 3600) (m := d.seconds % 3600 / 60)
      (by omega) (by omega) seconds low (by linarith)
    rw [split, List.append_assoc]
    exact canonical

/-- Every duration is written in the canonical form, and what is written stands for it exactly and for
nothing else. Different durations are written differently. -/
theorem text_exact :
    (∀ d : Duration, IsCanonical d.text.toList d.nanos ∧
      ∀ nanos : ℚ, Sums Measures d.text.toList nanos ↔ nanos = d.nanos) ∧
    Function.Injective text := by
  refine ⟨fun d => ⟨d.isCanonical_text, fun nanos => ⟨fun sums => ?_, ?_⟩⟩, fun d e same => ?_⟩
  · exact sums.unique Measures.functional d.isCanonical_text.sums
  · rintro rfl
    exact d.isCanonical_text.sums
  · have sums := d.isCanonical_text.sums
    rw [same] at sums
    have nanos := sums.unique Measures.functional e.isCanonical_text.sums
    exact congrArg Duration.mk (Nat.cast_injective nanos)

end ClusterBackup.Duration
