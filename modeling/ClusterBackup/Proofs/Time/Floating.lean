import ClusterBackup.Proofs.Number.Precision
import ClusterBackup.Time.Duration

/-! Durations as floating point numbers of seconds and of smaller units. -/

set_option autoImplicit false

namespace ClusterBackup.Duration

open Number Binary64

variable {d : Duration}

theorem nanos_eq (d : Duration) : d.nanos = d.seconds * 1000000000 + d.subsecond :=
  (Nat.div_add_mod' d.nanos 1000000000).symm

theorem subsecond_lt (d : Duration) : d.subsecond < 1000000000 := Nat.mod_lt _ (by decide)

theorem inUnit_of_lt {k : Nat} {unit : Nat} (positive : 0 < unit) (small : d.nanos < 2 ^ 53)
    (small' : unit < 2 ^ 53) (below : d.nanos < unit * 2 ^ k) (bounded : k ≤ 1023) :
    ∃ x, d.inUnit unit = some x ∧ |x.value - d.nanos / unit| ≤ 2 ^ ((k : Int) - 54) := by
  obtain ⟨x, converted, value⟩ := ofNat_of_lt small
  obtain ⟨y, converted', value'⟩ := ofNat_of_lt small'
  have scale : (0 : ℚ) < unit := Nat.cast_pos.mpr positive
  have quotient : x.value / y.value < 2 ^ (k : Int) := by
    rw [value, value', div_lt_iff₀ scale, mul_comm]
    exact_mod_cast below
  obtain ⟨z, divided, near⟩ := div_of_lt (value' ▸ scale) quotient (by omega) (by omega)
  refine ⟨z, ?_, value ▸ value' ▸ near⟩
  simp only [inUnit, converted, converted', Option.bind_eq_bind, Option.bind_some, divided]

theorem toFloating_of_lt {k : Nat} (short : d.seconds < 2 ^ k) (bounded : k ≤ 53) :
    ∃ x, d.toFloating = some x ∧ |x.value - d.nanos / 1000000000| ≤ 2 ^ ((k : Int) - 54) + 2 ^ (-54 : Int) := by
  obtain ⟨whole, converted, value⟩ :=
    ofNat_of_lt (n := d.seconds) (short.trans_le (Nat.pow_le_pow_right (by decide) bounded))
  obtain ⟨rest, converted', value'⟩ :=
    ofNat_of_lt (n := d.subsecond) (d.subsecond_lt.trans (by decide))
  obtain ⟨billion, converted'', value''⟩ := ofNat_of_lt (n := 1000000000) (by decide)
  have fraction : (d.subsecond : ℚ) ≤ 999999999 := by
    exact_mod_cast Nat.le_of_lt_succ d.subsecond_lt
  have split : (d.nanos : ℚ) / 1000000000 = d.seconds + d.subsecond / 1000000000 := by
    rw [nanos_eq]
    push_cast
    ring
  obtain ⟨part, divided, near⟩ := div_of_lt (x := rest) (y := billion) (k := 0)
    (by rw [value'']; norm_num) (by rw [value', value'']; norm_num; linarith) (by omega) (by omega)
  have small : (2 : ℚ) ^ ((0 : Int) - 54) < 1 / 1000000000 := by norm_num
  rw [value', value'', Nat.cast_ofNat] at near
  have sum : whole.value + part.value < 2 ^ (k : Int) := by
    have below : (d.seconds : ℚ) + 1 ≤ 2 ^ (k : Int) := by exact_mod_cast short
    rw [value]
    linarith [(abs_le.mp near).2]
  obtain ⟨x, added, near'⟩ := add_of_lt sum (by omega) (by omega)
  -- One rounding is that of the fraction, and the other one that of the sum.
  refine ⟨x, ?_, ?_⟩
  · simp only [toFloating, converted, converted', converted'', Option.bind_eq_bind, Option.bind_some,
      divided, added]
  · have between : x.value - d.nanos / 1000000000 =
        (x.value - (whole.value + part.value)) + (part.value - d.subsecond / 1000000000) := by
      rw [split, value]
      ring
    rw [between]
    exact (abs_add_le _ _).trans (add_le_add near' near)

end ClusterBackup.Duration
