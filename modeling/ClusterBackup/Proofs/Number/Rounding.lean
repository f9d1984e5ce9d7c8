import ClusterBackup.Number.Binary64
import Mathlib.Tactic.NormNum
import Mathlib.Tactic.Positivity
import Mathlib.Tactic.Ring

/-! Which natural numbers floating point keeps, and what it makes of the others. -/

set_option autoImplicit false

namespace ClusterBackup.Number

variable {numerator denominator quotient : Nat}

theorem roundQuotient_mul_self (quotient : Nat) (positive : 0 < denominator) :
    roundQuotient (quotient * denominator) denominator = quotient := by
  simp [roundQuotient, positive]

theorem roundQuotient_le (below : numerator < quotient * denominator) :
    roundQuotient numerator denominator ≤ quotient := by
  have floor : numerator / denominator < quotient := Nat.div_lt_of_lt_mul (by rwa [mul_comm])
  unfold roundQuotient
  grind

theorem le_roundQuotient (positive : 0 < denominator) (above : quotient * denominator ≤ numerator) :
    quotient ≤ roundQuotient numerator denominator := by
  have floor : quotient ≤ numerator / denominator := (Nat.le_div_iff_mul_le positive).mpr above
  unfold roundQuotient
  grind

namespace Binary64

theorem log2_mul_two_pow {n : Nat} (positive : 0 < n) (k : Nat) :
    Nat.log2 (n * 2 ^ k) = Nat.log2 n + k := by
  have scale : 0 < 2 ^ k := Nat.two_pow_pos k
  rw [Nat.log2_eq_iff (Nat.mul_pos positive scale).ne', pow_add, Nat.add_right_comm, pow_add]
  exact ⟨Nat.mul_le_mul_right _ (Nat.log2_self_le positive.ne'),
    Nat.mul_lt_mul_of_pos_right Nat.lt_log2_self scale⟩

theorem placeOf_eq {place : Int} (positive : 0 < denominator) (bounded : -1074 ≤ place)
    (low : 2 ^ 52 * (denominator * 2 ^ place.toNat) ≤ numerator * 2 ^ (-place).toNat)
    (high : numerator * 2 ^ (-place).toNat < 2 ^ 53 * (denominator * 2 ^ place.toNat)) :
    placeOf numerator denominator = place := by
  have scaled : 0 < denominator * 2 ^ place.toNat := Nat.mul_pos positive (Nat.two_pow_pos _)
  have present : 0 < numerator := by
    rcases Nat.eq_zero_or_pos numerator with rfl | present
    · omega
    · exact present
  have shifted : 0 < numerator * 2 ^ (-place).toNat := Nat.mul_pos present (Nat.two_pow_pos _)
  -- The numbers of bits differ by 52 or 53, so that the guess is the place or the next one.
  have atLeast : 52 + Nat.log2 (denominator * 2 ^ place.toNat) ≤
      Nat.log2 (numerator * 2 ^ (-place).toNat) := by
    rw [Nat.le_log2 shifted.ne', pow_add]
    exact le_trans (Nat.mul_le_mul_left _ (Nat.log2_self_le scaled.ne')) low
  have atMost : Nat.log2 (numerator * 2 ^ (-place).toNat) <
      53 + (Nat.log2 (denominator * 2 ^ place.toNat) + 1) := by
    rw [Nat.log2_lt shifted.ne', pow_add]
    exact lt_trans high (Nat.mul_lt_mul_of_pos_left Nat.lt_log2_self (by decide))
  rw [log2_mul_two_pow positive, log2_mul_two_pow present] at atLeast atMost
  simp only [placeOf, Nat.pow_eq, decide_eq_true_eq]
  obtain same | next : (Nat.log2 numerator : Int) - Nat.log2 denominator - 52 = place ∨
      (Nat.log2 numerator : Int) - Nat.log2 denominator - 52 = place + 1 := by omega
  · rw [same, if_neg (by rw [Nat.mul_assoc]; omega)]
    omega
  · have short : numerator * 2 ^ (-(place + 1)).toNat <
        2 ^ 52 * denominator * 2 ^ (place + 1).toNat := by
      rcases Int.lt_or_le place 0 with negative | natural
      · have halved : (-place).toNat = (-(place + 1)).toNat + 1 := by omega
        have none : place.toNat = 0 := by omega
        have none' : (place + 1).toNat = 0 := by omega
        rw [halved, none, pow_succ, ← Nat.mul_assoc] at high
        rw [none']
        omega
      · have doubled : (place + 1).toNat = place.toNat + 1 := by omega
        have none : (-place).toNat = 0 := by omega
        have none' : (-(place + 1)).toNat = 0 := by omega
        rw [none] at high
        rw [doubled, none', pow_succ]
        calc numerator * 2 ^ 0 < 2 ^ 53 * (denominator * 2 ^ place.toNat) := high
          _ = 2 ^ 52 * denominator * (2 ^ place.toNat * 2) := by ring
    rw [next, if_pos short]
    omega

theorem round_eq (place : Int) (positive : 0 < denominator) (bounded : -1074 ≤ place)
    (low : 2 ^ 52 * (denominator * 2 ^ place.toNat) ≤ numerator * 2 ^ (-place).toNat)
    (high : numerator * 2 ^ (-place).toNat < 2 ^ 53 * (denominator * 2 ^ place.toNat)) :
    round numerator denominator =
      let significand :=
        roundQuotient (numerator * 2 ^ (-place).toNat) (denominator * 2 ^ place.toNat)
      let rounded : Binary64 :=
        if significand = 2 ^ 53 then ⟨2 ^ 52, place + 1⟩ else ⟨significand, place⟩
      if 971 < rounded.exponent then none else some rounded := by
  have present : numerator ≠ 0 := by
    rintro rfl
    have scaled := Nat.mul_pos positive (Nat.two_pow_pos place.toNat)
    omega
  simp only [round, if_neg present, placeOf_eq positive bounded low high, Nat.pow_eq]

/-- A number with all of its 53 bits, or zero. -/
def IsCanonical (x : Binary64) : Prop :=
  x = zero ∨ (2 ^ 52 ≤ x.significand ∧ x.significand < 2 ^ 53 ∧
    -1074 ≤ x.exponent ∧ x.exponent ≤ 971)

def one : Binary64 := ⟨2 ^ 52, -52⟩

theorem numerator_one : one.numerator = 2 ^ 52 := rfl

theorem denominator_one : one.denominator = 2 ^ 52 := rfl

theorem mul_one {x : Binary64} (canonical : x.IsCanonical) : x.mul one = some x := by
  obtain rfl | ⟨low, high, least, greatest⟩ := canonical
  · rfl
  have scale : 0 < 2 ^ x.exponent.toNat * 2 ^ 52 * 2 ^ (-x.exponent).toNat := by positivity
  have shifted : x.numerator * one.numerator * 2 ^ (-x.exponent).toNat =
      x.significand * (2 ^ x.exponent.toNat * 2 ^ 52 * 2 ^ (-x.exponent).toNat) := by
    rw [numerator_one]
    simp only [numerator, Nat.pow_eq]
    ring
  have whole : x.denominator * one.denominator * 2 ^ x.exponent.toNat =
      2 ^ x.exponent.toNat * 2 ^ 52 * 2 ^ (-x.exponent).toNat := by
    rw [denominator_one]
    simp only [denominator, Nat.pow_eq]
    ring
  have positive : 0 < x.denominator * one.denominator := by
    rw [denominator_one]
    simp only [denominator, Nat.pow_eq]
    positivity
  rw [mul, round_eq x.exponent positive least
    (by rw [shifted, whole]; exact Nat.mul_le_mul_right _ low)
    (by rw [shifted, whole]; exact Nat.mul_lt_mul_of_pos_right high scale)]
  rw [shifted, whole, roundQuotient_mul_self x.significand scale]
  simp only [if_neg high.ne, if_neg greatest.not_gt]

/-- The weight of the last of 53 bits of a natural number. -/
def lastPlace (n : Nat) : Nat := 2 ^ (Nat.log2 n - 52)

/-- The nearest of the natural numbers that have at most 53 bits before their zeros. -/
def nearest (n : Nat) : Nat := roundQuotient n (lastPlace n) * lastPlace n

theorem lastPlace_pos (n : Nat) : 0 < lastPlace n := Nat.two_pow_pos _

theorem lt_mul_lastPlace (n : Nat) : n < 2 ^ 53 * lastPlace n := by
  rw [lastPlace, ← pow_add]
  exact lt_of_lt_of_le Nat.lt_log2_self (Nat.pow_le_pow_right (by decide) (by omega))

theorem nearest_of_small {n : Nat} (small : Nat.log2 n ≤ 52) : nearest n = n := by
  have unit : lastPlace n = 1 := by rw [lastPlace, Nat.sub_eq_zero_of_le small, pow_zero]
  have same := roundQuotient_mul_self n Nat.one_pos
  rw [Nat.mul_one] at same
  rw [nearest, unit, same, Nat.mul_one]

theorem ofNat_of_small {n : Nat} (positive : 0 < n) (small : Nat.log2 n ≤ 52) :
    ofNat n = some ⟨n * 2 ^ (52 - Nat.log2 n), (Nat.log2 n : Int) - 52⟩ ∧
      2 ^ 52 ≤ n * 2 ^ (52 - Nat.log2 n) ∧ n * 2 ^ (52 - Nat.log2 n) < 2 ^ 53 := by
  have low : 2 ^ 52 ≤ n * 2 ^ (52 - Nat.log2 n) := by
    calc 2 ^ 52 = 2 ^ Nat.log2 n * 2 ^ (52 - Nat.log2 n) := by
          rw [← pow_add, Nat.add_sub_cancel' small]
      _ ≤ _ := Nat.mul_le_mul_right _ (Nat.log2_self_le positive.ne')
  have high : n * 2 ^ (52 - Nat.log2 n) < 2 ^ 53 := by
    calc n * 2 ^ (52 - Nat.log2 n) < 2 ^ (Nat.log2 n + 1) * 2 ^ (52 - Nat.log2 n) :=
          Nat.mul_lt_mul_of_pos_right Nat.lt_log2_self (Nat.two_pow_pos _)
      _ = 2 ^ 53 := by rw [← pow_add]; congr 1; omega
  have before : ((Nat.log2 n : Int) - 52).toNat = 0 := by omega
  have after : (-((Nat.log2 n : Int) - 52)).toNat = 52 - Nat.log2 n := by omega
  have kept := roundQuotient_mul_self (n * 2 ^ (52 - Nat.log2 n)) Nat.one_pos
  refine ⟨?_, low, high⟩
  rw [ofNat, round_eq ((Nat.log2 n : Int) - 52) Nat.one_pos (by omega)
    (by rw [before, after]; simpa using low) (by rw [before, after]; simpa using high),
    before, after]
  simp only [pow_zero, Nat.mul_one] at kept ⊢
  rw [kept, if_neg high.ne, if_neg (by simp only []; omega)]

theorem ofNat_of_large {n : Nat} (large : 52 < Nat.log2 n) (bounded : Nat.log2 n < 1023) :
    ofNat n = some (if roundQuotient n (lastPlace n) = 2 ^ 53
      then ⟨2 ^ 52, (Nat.log2 n : Int) - 51⟩
      else ⟨roundQuotient n (lastPlace n), (Nat.log2 n : Int) - 52⟩) ∧
      2 ^ 52 ≤ roundQuotient n (lastPlace n) ∧ roundQuotient n (lastPlace n) ≤ 2 ^ 53 := by
  have positive : 0 < n := by
    rcases Nat.eq_zero_or_pos n with rfl | positive
    · simp at large
    · exact positive
  have low : 2 ^ 52 * lastPlace n ≤ n := by
    rw [lastPlace, ← pow_add, Nat.add_sub_cancel' large.le]
    exact Nat.log2_self_le positive.ne'
  have high := lt_mul_lastPlace n
  have before : 2 ^ ((Nat.log2 n : Int) - 52).toNat = lastPlace n := by
    rw [lastPlace]
    congr 1
    omega
  have after : (-((Nat.log2 n : Int) - 52)).toNat = 0 := by omega
  -- Rounding up may carry into a 54th bit, and then the place moves up by one.
  refine ⟨?_, le_roundQuotient (lastPlace_pos n) low, roundQuotient_le high⟩
  rw [ofNat, round_eq ((Nat.log2 n : Int) - 52) Nat.one_pos (by omega)
    (by rw [before, after]; simpa using low) (by rw [before, after]; simpa using high),
    before, after]
  simp only [pow_zero, Nat.mul_one, Nat.one_mul]
  split
  · rw [if_neg (by simp only []; omega)]
    congr 2
    omega
  · rw [if_neg (by simp only []; omega)]

/-- A natural number becomes the nearest one with 53 bits. -/
theorem ofNat_eq {n : Nat} (bounded : Nat.log2 n < 1023) :
    ∃ x, ofNat n = some x ∧ x.IsCanonical ∧ x.numerator = nearest n * x.denominator := by
  rcases Nat.eq_zero_or_pos n with rfl | positive
  · exact ⟨zero, rfl, .inl rfl, by simp [numerator, nearest, zero, roundQuotient]⟩
  rcases Nat.lt_or_ge 52 (Nat.log2 n) with large | small
  · obtain ⟨converted, low, high⟩ := ofNat_of_large large bounded
    refine ⟨_, converted, ?_, ?_⟩
    · split
      · exact .inr ⟨by simp, by simp, by simp only []; omega, by simp only []; omega⟩
      · exact .inr ⟨low, by simp only []; omega, by simp only []; omega, by simp only []; omega⟩
    · have before : ((Nat.log2 n : Int) - 52).toNat = Nat.log2 n - 52 := by omega
      have after : (-((Nat.log2 n : Int) - 52)).toNat = 0 := by omega
      split
      · rename_i carried
        have next : ((Nat.log2 n : Int) - 51).toNat = Nat.log2 n - 52 + 1 := by omega
        have after : (-((Nat.log2 n : Int) - 51)).toNat = 0 := by omega
        rw [nearest, carried]
        simp only [numerator, denominator, next, after, lastPlace, Nat.pow_eq]
        ring
      · simp only [numerator, denominator, nearest, before, after, lastPlace, Nat.pow_eq, pow_zero,
          Nat.mul_one]
  · obtain ⟨converted, low, high⟩ := ofNat_of_small positive small
    refine ⟨_, converted, .inr ⟨low, high, by simp only []; omega, by simp only []; omega⟩, ?_⟩
    rw [nearest_of_small small]
    have before : ((Nat.log2 n : Int) - 52).toNat = 0 := by omega
    have after : (-((Nat.log2 n : Int) - 52)).toNat = 52 - Nat.log2 n := by omega
    simp only [numerator, denominator, before, after, Nat.pow_eq, pow_zero, Nat.mul_one]

/-- A number that has at most 53 bits before its zeros. -/
def IsExact (n : Nat) : Prop := ∃ m k, m < 2 ^ 53 ∧ n = m * 2 ^ k

theorem nearest_eq_self_iff {n : Nat} : nearest n = n ↔ IsExact n := by
  rcases Nat.eq_zero_or_pos n with rfl | positive
  · exact iff_of_true (by simp [nearest, roundQuotient]) ⟨0, 0, by decide, rfl⟩
  constructor
  · intro same
    rcases Nat.lt_or_ge (roundQuotient n (lastPlace n)) (2 ^ 53) with short | carried
    · exact ⟨_, _, short, same.symm⟩
    · have carries : 2 ^ 53 * lastPlace n ≤ n := by
        calc 2 ^ 53 * lastPlace n ≤ nearest n := Nat.mul_le_mul_right _ carried
          _ = n := same
      exact absurd (lt_mul_lastPlace n) carries.not_gt
  · rintro ⟨m, k, short, whole⟩
    have divides : lastPlace n ∣ n := by
      rw [lastPlace]
      refine dvd_trans (pow_dvd_pow 2 (n := k) ?_) (whole ▸ Nat.dvd_mul_left _ _)
      have size : Nat.log2 n < 53 + k := by
        rw [Nat.log2_lt positive.ne', pow_add, whole]
        exact Nat.mul_lt_mul_of_pos_right short (Nat.two_pow_pos k)
      omega
    obtain ⟨c, multiple⟩ := divides
    have kept := roundQuotient_mul_self c (lastPlace_pos n)
    rw [Nat.mul_comm, ← multiple] at kept
    rw [nearest, kept, Nat.mul_comm, ← multiple]

end Binary64

end ClusterBackup.Number
