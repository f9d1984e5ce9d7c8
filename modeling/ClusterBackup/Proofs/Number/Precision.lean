import ClusterBackup.Proofs.Number.Rounding
import Mathlib.Algebra.Order.Field.Power
import Mathlib.Data.Rat.Cast.Order
import Mathlib.Tactic.FieldSimp
import Mathlib.Tactic.Linarith

/-! How far a rounded number is from the one that it stands for, in exact arithmetic.

A quotient below a power of two is off by half a unit in the 53rd place below that power at most. -/

set_option autoImplicit false

namespace ClusterBackup.Number

variable {numerator denominator : Nat}

theorem roundQuotient_cases (numerator denominator : Nat) :
    (roundQuotient numerator denominator = numerator / denominator ∧
      2 * (numerator % denominator) ≤ denominator) ∨
    (roundQuotient numerator denominator = numerator / denominator + 1 ∧
      denominator ≤ 2 * (numerator % denominator)) := by
  unfold roundQuotient
  grind

theorem roundQuotient_near (numerator : Nat) (positive : 0 < denominator) :
    |(roundQuotient numerator denominator : ℚ) - numerator / denominator| ≤ 1 / 2 := by
  have scale : (0 : ℚ) < denominator := Nat.cast_pos.mpr positive
  have whole : (numerator : ℚ) = (numerator / denominator : Nat) * denominator +
      (numerator % denominator : Nat) := by
    exact_mod_cast (Nat.div_add_mod' numerator denominator).symm
  have split : (numerator : ℚ) / denominator =
      (numerator / denominator : Nat) + (numerator % denominator : Nat) / denominator := by
    rw [div_eq_iff scale.ne', add_mul, div_mul_cancel₀ _ scale.ne']
    exact whole
  have part : (0 : ℚ) ≤ (numerator % denominator : Nat) / denominator := by positivity
  rw [split, abs_le]
  -- The fraction is dropped or completed to one, whichever is less.
  obtain ⟨rounded, low⟩ | ⟨rounded, high⟩ := roundQuotient_cases numerator denominator
  · have half : ((numerator % denominator : Nat) : ℚ) / denominator ≤ 1 / 2 := by
      rw [div_le_iff₀ scale]
      have : (2 : ℚ) * (numerator % denominator : Nat) ≤ denominator := by exact_mod_cast low
      linarith
    rw [rounded]
    constructor <;> linarith
  · have half : 1 / 2 ≤ ((numerator % denominator : Nat) : ℚ) / denominator := by
      rw [le_div_iff₀ scale]
      have : (denominator : ℚ) ≤ 2 * (numerator % denominator : Nat) := by exact_mod_cast high
      linarith
    have short : ((numerator % denominator : Nat) : ℚ) / denominator < 1 := by
      rw [div_lt_one scale]
      exact_mod_cast Nat.mod_lt _ positive
    rw [rounded]
    push_cast
    constructor <;> linarith

theorem roundQuotient_eq_of_near {nearest : Nat} (positive : 0 < denominator)
    (near : |(numerator : ℚ) / denominator - nearest| < 1 / 2) :
    roundQuotient numerator denominator = nearest := by
  have rounded := roundQuotient_near numerator positive
  rw [abs_le] at rounded
  rw [abs_lt] at near
  have low : (roundQuotient numerator denominator : ℚ) < nearest + 1 := by linarith
  have high : (nearest : ℚ) < roundQuotient numerator denominator + 1 := by linarith
  have low' : roundQuotient numerator denominator < nearest + 1 := by exact_mod_cast low
  have high' : nearest < roundQuotient numerator denominator + 1 := by exact_mod_cast high
  omega

theorem roundQuotient_of_tie (tie : 2 * (numerator % denominator) = denominator) :
    roundQuotient numerator denominator =
      numerator / denominator + numerator / denominator % 2 := by
  simp only [roundQuotient, tie, lt_irrefl, if_false]
  split <;> omega

theorem roundQuotient_le_roundQuotient {numerator' denominator' : Nat} (positive : 0 < denominator)
    (positive' : 0 < denominator') (le : numerator * denominator' ≤ numerator' * denominator) :
    roundQuotient numerator denominator ≤ roundQuotient numerator' denominator' := by
  have floors : numerator / denominator ≤ numerator' / denominator' := by
    rw [Nat.le_div_iff_mul_le positive']
    refine Nat.le_of_mul_le_mul_right ?_ positive
    calc numerator / denominator * denominator' * denominator
        = numerator / denominator * denominator * denominator' := Nat.mul_right_comm _ _ _
      _ ≤ numerator * denominator' := Nat.mul_le_mul_right _ (Nat.div_mul_le_self _ _)
      _ ≤ numerator' * denominator := le
  obtain ⟨down, -⟩ | ⟨up, high⟩ := roundQuotient_cases numerator denominator
  · obtain ⟨rounded, -⟩ | ⟨rounded, -⟩ := roundQuotient_cases numerator' denominator' <;> omega
  obtain ⟨down', low⟩ | ⟨up', -⟩ := roundQuotient_cases numerator' denominator'
  · obtain apart | same := floors.lt_or_eq
    · omega
    -- On one floor the first is a tie or more and the second a tie or less, so both are ties.
    have rests : numerator % denominator * denominator' ≤ numerator' % denominator' * denominator := by
      rw [← Nat.div_add_mod' numerator denominator, ← Nat.div_add_mod' numerator' denominator', same] at le
      nlinarith
    have tie : 2 * (numerator % denominator) = denominator :=
      Nat.le_antisymm (Nat.le_of_mul_le_mul_right (by nlinarith) positive') high
    have tie' : 2 * (numerator' % denominator') = denominator' :=
      Nat.le_antisymm low (Nat.le_of_mul_le_mul_right (by nlinarith) positive)
    rw [roundQuotient_of_tie tie, roundQuotient_of_tie tie', same]
  · omega

theorem two_zpow_eq (e : Int) : (2 : ℚ) ^ e = 2 ^ e.toNat / 2 ^ (-e).toNat := by
  rw [← zpow_natCast, ← zpow_natCast, ← zpow_sub₀ two_ne_zero]
  congr 1
  omega

theorem two_zpow_pos (e : Int) : (0 : ℚ) < 2 ^ e := zpow_pos two_pos e

namespace Binary64

def value (x : Binary64) : ℚ := x.significand * 2 ^ x.exponent

theorem denominator_pos (x : Binary64) : 0 < x.denominator := Nat.two_pow_pos _

theorem value_eq (x : Binary64) : x.value = x.numerator / x.denominator := by
  simp only [value, numerator, denominator, Nat.pow_eq, two_zpow_eq]
  push_cast
  ring

theorem value_zero : zero.value = 0 := by simp [value, zero]

theorem minimum_le (x : Option Binary64) (y : Binary64) : (minimum x y).le y = true := by
  have self : y.le y = true := decide_eq_true (Nat.le_refl _)
  cases x with
  | none => exact self
  | some x =>
    simp only [minimum]
    split
    · assumption
    · exact self

theorem two_zpow_lt_div (present : numerator ≠ 0) (positive : 0 < denominator) :
    (2 : ℚ) ^ ((Nat.log2 numerator : Int) - Nat.log2 denominator - 1) < numerator / denominator := by
  have low : (2 : ℚ) ^ (Nat.log2 numerator : Int) ≤ numerator := by
    exact_mod_cast Nat.log2_self_le present
  have high : (denominator : ℚ) < 2 ^ ((Nat.log2 denominator : Int) + 1) := by
    exact_mod_cast Nat.lt_log2_self (n := denominator)
  rw [lt_div_iff₀ (Nat.cast_pos.mpr positive)]
  calc (2 : ℚ) ^ ((Nat.log2 numerator : Int) - Nat.log2 denominator - 1) * denominator
      < 2 ^ ((Nat.log2 numerator : Int) - Nat.log2 denominator - 1) *
          2 ^ ((Nat.log2 denominator : Int) + 1) := mul_lt_mul_of_pos_left high (two_zpow_pos _)
    _ = 2 ^ (Nat.log2 numerator : Int) := by
        rw [← zpow_add₀ two_ne_zero]
        congr 1
        omega
    _ ≤ numerator := low

theorem placeOf_cases (present : numerator ≠ 0) (positive : 0 < denominator) :
    placeOf numerator denominator = -1074 ∨
      (2 : ℚ) ^ (placeOf numerator denominator + 52) ≤ numerator / denominator := by
  have scale : (0 : ℚ) < denominator := Nat.cast_pos.mpr positive
  have above := two_zpow_lt_div present positive
  simp only [placeOf, Nat.pow_eq, decide_eq_true_eq]
  generalize guessed : (Nat.log2 numerator : Int) - Nat.log2 denominator - 52 = guess
  obtain floor | place := max_choice (if numerator * 2 ^ (-guess).toNat < 2 ^ 52 * denominator * 2 ^ guess.toNat
    then guess - 1 else guess) (-1074)
  · refine .inr ?_
    rw [floor]
    split_ifs with short
    · exact (le_of_eq (by congr 1; omega)).trans above.le
    · have long : (2 ^ 52 * denominator * 2 ^ guess.toNat : ℚ) ≤ numerator * 2 ^ (-guess).toNat := by
        exact_mod_cast Nat.not_lt.mp short
      have lowered : (0 : ℚ) < 2 ^ (-guess).toNat := by positivity
      rw [zpow_add₀ two_ne_zero, two_zpow_eq guess, le_div_iff₀ scale]
      calc (2 : ℚ) ^ guess.toNat / 2 ^ (-guess).toNat * 2 ^ (52 : Int) * denominator
          = 2 ^ 52 * denominator * 2 ^ guess.toNat / 2 ^ (-guess).toNat := by
            rw [show (52 : Int) = (52 : Nat) from rfl, zpow_natCast]
            ring
        _ ≤ numerator := (div_le_iff₀ lowered).mpr long
  · exact .inl place

theorem placeOf_le {k : Int} (present : numerator ≠ 0) (positive : 0 < denominator)
    (below : (numerator : ℚ) / denominator < 2 ^ k) (least : -1021 ≤ k) :
    placeOf numerator denominator ≤ k - 53 := by
  obtain place | above := placeOf_cases present positive
  · omega
  · have := (zpow_lt_zpow_iff_right₀ one_lt_two).mp (above.trans_lt below)
    omega

/-- What a quotient is rounded to is off by half a unit of its place at most. -/
theorem round_near_place {x : Binary64} (present : numerator ≠ 0) (positive : 0 < denominator)
    (rounded : round numerator denominator = some x) :
    |x.value - numerator / denominator| ≤ 2 ^ placeOf numerator denominator / 2 := by
  simp only [round, if_neg present, Nat.pow_eq] at rounded
  generalize placeOf numerator denominator = place at rounded ⊢
  have scaled : 0 < denominator * 2 ^ place.toNat := Nat.mul_pos positive (Nat.two_pow_pos _)
  have near := roundQuotient_near (numerator * 2 ^ (-place).toNat) scaled
  generalize roundQuotient (numerator * 2 ^ (-place).toNat) (denominator * 2 ^ place.toNat) =
    significand at rounded near
  -- A carry into the 54th digit moves the point, and the number is the same.
  have same : x.value = significand * 2 ^ place := by
    split_ifs at rounded with carry
    · obtain rfl := Option.some.inj rounded
      rw [value, carry, zpow_add₀ two_ne_zero]
      norm_num
      ring
    · obtain rfl := Option.some.inj rounded
      rfl
  have quotient : (numerator : ℚ) / denominator =
      (numerator * 2 ^ (-place).toNat : Nat) / (denominator * 2 ^ place.toNat : Nat) * 2 ^ place := by
    rw [two_zpow_eq]
    push_cast
    field_simp
  rw [same, quotient, ← sub_mul, abs_mul, abs_of_pos (two_zpow_pos place)]
  calc _ ≤ 1 / 2 * (2 : ℚ) ^ place := mul_le_mul_of_nonneg_right near (two_zpow_pos place).le
    _ = _ := by ring

theorem round_isSome (present : numerator ≠ 0) (small : placeOf numerator denominator ≤ 970) :
    ∃ x, round numerator denominator = some x := by
  simp only [round, if_neg present]
  split_ifs with carry large large
  · simp only [] at large
    omega
  · exact ⟨_, rfl⟩
  · simp only [] at large
    omega
  · exact ⟨_, rfl⟩

theorem round_of_lt {k : Int} (positive : 0 < denominator)
    (below : (numerator : ℚ) / denominator < 2 ^ k) (least : -1021 ≤ k) (most : k ≤ 1023) :
    ∃ x, round numerator denominator = some x ∧
      |x.value - numerator / denominator| ≤ 2 ^ (k - 54) := by
  rcases Nat.eq_zero_or_pos numerator with rfl | present
  · refine ⟨zero, rfl, ?_⟩
    rw [value_zero, Nat.cast_zero, zero_div, sub_zero, abs_zero]
    exact (two_zpow_pos _).le
  · have place := placeOf_le present.ne' positive below least
    have small : placeOf numerator denominator ≤ 970 := by omega
    obtain ⟨x, rounded⟩ := round_isSome present.ne' small
    refine ⟨x, rounded, (round_near_place present.ne' positive rounded).trans ?_⟩
    calc (2 : ℚ) ^ placeOf numerator denominator / 2 = 2 ^ (placeOf numerator denominator - 1) := by
          rw [zpow_sub_one₀ two_ne_zero, div_eq_mul_inv]
      _ ≤ 2 ^ (k - 54) := zpow_le_zpow_right₀ one_le_two (by omega)

/-! ### Operations -/

theorem ofNat_of_lt {n : Nat} (small : n < 2 ^ 53) : ∃ x, ofNat n = some x ∧ x.value = n := by
  have bits : Nat.log2 n ≤ 52 := by
    rcases Nat.eq_zero_or_pos n with rfl | present
    · decide
    · exact Nat.le_of_lt_succ ((Nat.log2_lt present.ne').mpr small)
  obtain ⟨x, converted, -, whole⟩ := ofNat_eq (n := n) (by omega)
  rw [nearest_of_small bits] at whole
  refine ⟨x, converted, ?_⟩
  rw [value_eq, div_eq_iff (Nat.cast_ne_zero.mpr x.denominator_pos.ne')]
  exact_mod_cast whole

section

variable {x y : Binary64} {k : Int}

theorem div_of_lt (present : 0 < y.value) (below : x.value / y.value < 2 ^ k) (least : -1021 ≤ k)
    (most : k ≤ 1023) : ∃ z, x.div y = some z ∧ |z.value - x.value / y.value| ≤ 2 ^ (k - 54) := by
  have left : (0 : ℚ) < x.denominator := Nat.cast_pos.mpr x.denominator_pos
  have right : (0 : ℚ) < y.denominator := Nat.cast_pos.mpr y.denominator_pos
  have above : 0 < y.numerator := by
    rw [value_eq, div_pos_iff_of_pos_right right] at present
    exact_mod_cast present
  have quotient : x.value / y.value =
      (x.numerator * y.denominator : Nat) / (x.denominator * y.numerator : Nat) := by
    rw [value_eq, value_eq, div_div_div_eq]
    push_cast
    rfl
  rw [quotient] at below ⊢
  exact round_of_lt (Nat.mul_pos x.denominator_pos above) below least most

theorem add_of_lt (below : x.value + y.value < 2 ^ k) (least : -1021 ≤ k) (most : k ≤ 1023) :
    ∃ z, x.add y = some z ∧ |z.value - (x.value + y.value)| ≤ 2 ^ (k - 54) := by
  have left : (x.denominator : ℚ) ≠ 0 := Nat.cast_ne_zero.mpr x.denominator_pos.ne'
  have right : (y.denominator : ℚ) ≠ 0 := Nat.cast_ne_zero.mpr y.denominator_pos.ne'
  have sum : x.value + y.value =
      (x.numerator * y.denominator + y.numerator * x.denominator : Nat) /
        (x.denominator * y.denominator : Nat) := by
    rw [value_eq, value_eq, div_add_div _ _ left right]
    push_cast
    ring
  rw [sum] at below ⊢
  exact round_of_lt (Nat.mul_pos x.denominator_pos y.denominator_pos) below least most

end

end Binary64

end ClusterBackup.Number
