import ClusterBackup.Proofs.Number.Precision
import ClusterBackup.Proofs.Text.Pieces
import ClusterBackup.Proofs.Time.Text

/-! Decimals, and how a floating point number is written with few places.

Where the number is nearer to a decimal than half a unit of the last place, it is written as that
decimal, without zeros at the end of the fraction. -/

set_option autoImplicit false

namespace ClusterBackup.Number

open Text

variable {places n : Nat} {whole fraction xs : List Char}

theorem valueOf_append (xs ys : List Char) :
    valueOf (xs ++ ys) = valueOf xs * 10 ^ ys.length + valueOf ys := by
  induction ys using List.reverseRecOn with
  | nil => simp [valueOf]
  | append_singleton ys c ih =>
    have snoc (zs : List Char) : valueOf (zs ++ [c]) = valueOf zs * 10 + digitValue c := by
      simp [valueOf]
    rw [← List.append_assoc, snoc, snoc, ih, List.length_append, List.length_singleton, pow_succ]
    ring

theorem valueOf_zeros (zeros : ∀ c ∈ xs, c = '0') : valueOf xs = 0 := by
  induction xs with
  | nil => rfl
  | cons c rest ih =>
    obtain ⟨rfl, later⟩ := List.forall_mem_cons.mp zeros
    exact ih later

/-- Digits, and maybe a point among them, as the number that they stand for. -/
inductive IsNumber : List Char → ℚ → Prop where
  | whole {digits : List Char} : digits ≠ [] → (∀ c ∈ digits, isDigit c) →
      IsNumber digits (valueOf digits)
  | point {digits fraction : List Char} : digits ≠ [] → (∀ c ∈ digits, isDigit c) →
      fraction ≠ [] → (∀ c ∈ fraction, isDigit c) →
      IsNumber (digits ++ '.' :: fraction) (valueOf digits + valueOf fraction / (10 ^ fraction.length : Nat))

theorem IsNumber.unique {cs : List Char} {x y : ℚ} (first : IsNumber cs x) (second : IsNumber cs y) :
    x = y := by
  have pointless {digits : List Char} (all : ∀ c ∈ digits, isDigit c) : '.' ∉ digits := fun member =>
    absurd (all '.' member) (by decide)
  cases first with
  | whole _ all =>
    cases second with
    | whole => rfl
    | point => exact absurd (by simp) (pointless all)
  | @point digits fraction _ all _ _ =>
    generalize same : digits ++ '.' :: fraction = cs at second
    cases second with
    | whole _ all' => exact absurd (same ▸ by simp) (pointless all')
    | point _ all' _ _ =>
      have cut := cutAt_append (pointless all) fraction
      rw [same, cutAt_append (pointless all')] at cut
      cases cut
      rfl

/-- The shortest way to write a number with so many places or fewer: no zero stands before the other
digits, and a fraction does not end in one. -/
inductive IsDecimal (places : Nat) : List Char → ℚ → Prop where
  | whole (n : Nat) : IsDecimal places (digitsOf n) n
  | point (n : Nat) {fraction : List Char} : fraction ≠ [] → (∀ c ∈ fraction, isDigit c) →
      fraction.getLast? ≠ some '0' → fraction.length ≤ places →
      IsDecimal places (digitsOf n ++ '.' :: fraction) (n + valueOf fraction / (10 ^ fraction.length : Nat))

theorem IsDecimal.isNumber {cs : List Char} {x : ℚ} (decimal : IsDecimal places cs x) :
    IsNumber cs x := by
  have digits (n : Nat) : ∀ c ∈ digitsOf n, isDigit c := fun _ => isDigit_of_mem
  cases decimal with
  | whole n =>
    have number := IsNumber.whole (digitsOf_ne_nil n) (digits n)
    rwa [valueOf_digitsOf] at number
  | point n present all _ _ =>
    have number := IsNumber.point (digitsOf_ne_nil n) (digits n) present all
    rwa [valueOf_digitsOf] at number

theorem kept_digits {c : Char} (all : ∀ d ∈ xs, isDigit d) (other : ¬ isDigit c) :
    dropRightWhile (· = c) xs = xs := by
  rw [dropRightWhile_eq, List.rdropWhile_eq_self_iff]
  intro present same
  have digit := all _ (List.getLast_mem present)
  rw [of_decide_eq_true same] at digit
  exact other digit

theorem dropRightWhile_point (all : ∀ c ∈ whole, isDigit c) (all' : ∀ c ∈ fraction, isDigit c) :
    dropRightWhile (· = '.') (dropRightWhile (· = '0') (whole ++ '.' :: fraction)) =
      if dropRightWhile (· = '0') fraction = [] then whole
      else whole ++ '.' :: dropRightWhile (· = '0') fraction := by
  obtain ⟨cut, zeros, split⟩ := dropRightWhile_append_cut (· = '0') fraction
  have left : ∀ c ∈ dropRightWhile (· = '0') fraction, isDigit c := fun c member =>
    all' c (split ▸ List.mem_append_left cut member)
  have idem : dropRightWhile (· = '0') (dropRightWhile (· = '0') fraction) =
      dropRightWhile (· = '0') fraction := dropRightWhile_idem
  generalize dropRightWhile (· = '0') fraction = kept at split left idem ⊢
  subst split
  rw [← List.cons_append, ← List.append_assoc, dropRightWhile_append_of_all zeros]
  split_ifs with none
  · subst none
    rw [dropRightWhile_append_of_kept (by decide) (by simp),
      dropRightWhile_append_of_all (by simp), kept_digits all (by decide)]
  · have point : dropRightWhile (· = '0') (['.'] ++ kept) = ['.'] ++ kept :=
      dropRightWhile_append_of_kept idem none
    have digits : dropRightWhile (· = '.') (['.'] ++ kept) = ['.'] ++ kept :=
      dropRightWhile_append_of_kept (kept_digits left (by decide)) none
    rw [← List.singleton_append, dropRightWhile_append_of_kept point (by simp),
      dropRightWhile_append_of_kept digits (by simp)]

theorem valueOf_dropRightWhile (fraction : List Char) :
    (valueOf fraction : ℚ) / (10 ^ fraction.length : Nat) =
      valueOf (dropRightWhile (· = '0') fraction) /
        (10 ^ (dropRightWhile (· = '0') fraction).length : Nat) := by
  obtain ⟨cut, zeros, split⟩ := dropRightWhile_append_cut (· = '0') fraction
  generalize dropRightWhile (· = '0') fraction = kept at split ⊢
  have none : valueOf cut = 0 := valueOf_zeros fun c member => of_decide_eq_true (zeros c member)
  rw [split, valueOf_append, none, List.length_append, pow_add, Nat.add_zero]
  push_cast
  field_simp

namespace Binary64

theorem fixed_of_near {x : Binary64} (positive : 0 < places)
    (near : |x.value - n / (10 ^ places : Nat)| < 1 / (2 * (10 ^ places : Nat))) :
    fixed places (some x) = digitsOf (n / 10 ^ places) ++ '.' :: padded places (n % 10 ^ places) := by
  have scale : (0 : ℚ) < (10 ^ places : Nat) := by positivity
  have units : roundQuotient (x.numerator * 10 ^ places) x.denominator = n := by
    refine roundQuotient_eq_of_near x.denominator_pos ?_
    have shifted : ((x.numerator * 10 ^ places : Nat) : ℚ) / x.denominator - n =
        (x.value - n / (10 ^ places : Nat)) * (10 ^ places : Nat) := by
      rw [value_eq, Nat.cast_mul]
      field_simp
    rw [shifted, abs_mul, abs_of_pos scale]
    calc |x.value - n / (10 ^ places : Nat)| * (10 ^ places : Nat)
        < 1 / (2 * (10 ^ places : Nat)) * (10 ^ places : Nat) := mul_lt_mul_of_pos_right near scale
      _ = 1 / 2 := by field_simp
  simp only [fixed, Nat.pow_eq, units, if_neg positive.ne']

theorem brief_of_near {x : Binary64} (places : Nat) (positive : 0 < places)
    (near : |x.value - n / (10 ^ places : Nat)| < 1 / (2 * (10 ^ places : Nat))) :
    IsDecimal places (brief places (some x)) (n / (10 ^ places : Nat)) := by
  have full := length_padded positive (Nat.mod_lt n (show 0 < 10 ^ places by positivity))
  have digits : ∀ c ∈ padded places (n % 10 ^ places), isDigit c := fun _ => digit_of_mem_padded
  have value : (n : ℚ) / (10 ^ places : Nat) = (n / 10 ^ places : Nat) +
      valueOf (padded places (n % 10 ^ places)) / (10 ^ (padded places (n % 10 ^ places)).length : Nat) := by
    rw [valueOf_padded, full, div_eq_iff (by positivity), add_mul, div_mul_cancel₀ _ (by positivity)]
    exact_mod_cast (Nat.div_add_mod' n (10 ^ places)).symm
  simp only [brief, fixed_of_near positive near]
  rw [if_pos (by simp), dropRightWhile_point (fun _ => isDigit_of_mem) digits, value,
    valueOf_dropRightWhile]
  generalize padded places (n % 10 ^ places) = fraction at full digits
  obtain ⟨cut, -, split⟩ := dropRightWhile_append_cut (· = '0') fraction
  have last : dropRightWhile (· = '0') (dropRightWhile (· = '0') fraction) =
      dropRightWhile (· = '0') fraction := dropRightWhile_idem
  generalize dropRightWhile (· = '0') fraction = kept at split last ⊢
  subst split
  split_ifs with none
  · subst none
    have whole : IsDecimal places (digitsOf (n / 10 ^ places)) (n / 10 ^ places : Nat) := .whole _
    simpa [valueOf] using whole
  · rw [List.length_append] at full
    refine .point _ none (fun c member => digits c (List.mem_append_left _ member)) ?_ (by omega)
    rw [List.getLast?_eq_getLast_of_ne_nil none, ne_eq, Option.some.injEq]
    rw [dropRightWhile_eq, List.rdropWhile_eq_self_iff] at last
    simpa using last none

end Binary64

end ClusterBackup.Number
