import ClusterBackup.Proofs.Text.Pieces
import ClusterBackup.Text.Quoted

/-! Quoted text can be read back: different texts are shown differently.

It is enough that no character's escape begins another character's escape. -/

set_option autoImplicit false

namespace ClusterBackup.Text

/-! ### Hexadecimal digits -/

theorem hexDigits_of_lt {n : Nat} (small : n < 16) : hexDigits n = [Nat.digitChar n] :=
  Nat.toDigits_of_lt_base small

theorem hexDigits_of_le {n : Nat} (large : 16 ≤ n) :
    hexDigits n = hexDigits (n / 16) ++ [Nat.digitChar (n % 16)] :=
  Nat.toDigits_of_base_le (by decide) large

theorem hexDigits_ne_nil (n : Nat) : hexDigits n ≠ [] := by
  rcases Nat.lt_or_ge n 16 with small | large
  · simp [hexDigits_of_lt small]
  · simp [hexDigits_of_le large]

theorem digitChar_inj {m n : Nat} (small : m < 16) (small' : n < 16)
    (same : Nat.digitChar m = Nat.digitChar n) : m = n := by
  have all : ∀ i < 16, ∀ j < 16, Nat.digitChar i = Nat.digitChar j → i = j := by decide
  exact all m small n small' same

theorem hexDigits_injective {m n : Nat} (same : hexDigits m = hexDigits n) : m = n := by
  induction m using Nat.strongRecOn generalizing n with
  | ind m ih =>
    rcases Nat.lt_or_ge m 16 with small | large <;> rcases Nat.lt_or_ge n 16 with small' | large'
    · rw [hexDigits_of_lt small, hexDigits_of_lt small'] at same
      exact digitChar_inj small small' (List.singleton_inj.mp same)
    · rw [hexDigits_of_lt small, hexDigits_of_le large'] at same
      rw [← List.nil_append [Nat.digitChar m]] at same
      exact absurd (List.append_inj_left' same rfl).symm (hexDigits_ne_nil _)
    · rw [hexDigits_of_le large, hexDigits_of_lt small'] at same
      rw [← List.nil_append [Nat.digitChar n]] at same
      exact absurd (List.append_inj_left' same rfl) (hexDigits_ne_nil _)
    · rw [hexDigits_of_le large, hexDigits_of_le large'] at same
      obtain ⟨quotients, rests⟩ := List.append_inj' same rfl
      have quotient := ih (m / 16) (by omega) quotients
      have rest := digitChar_inj (Nat.mod_lt m (by decide)) (Nat.mod_lt n (by decide))
        (List.singleton_inj.mp rests)
      omega

theorem brace_not_mem_hexDigits (n : Nat) : '\x7d' ∉ hexDigits n := by
  induction n using Nat.strongRecOn with
  | ind n ih =>
    rcases Nat.lt_or_ge n 16 with small | large
    · simp [hexDigits_of_lt small]
    · simp [hexDigits_of_le large, ih (n / 16) (by omega)]

/-! ### Escapes -/

def shortEscapes : List (Char × Char) :=
  [('\x00', '0'), ('\t', 't'), ('\n', 'n'), ('\r', 'r'), ('"', '"'), ('\\', '\\')]

theorem escapeChar_cases (c : Char) :
    (∃ letter, (c, letter) ∈ shortEscapes ∧ escapeChar c = ['\\', letter]) ∨
    (c ≠ '\\' ∧ escapeChar c = [c]) ∨
    escapeChar c = ['\\', 'u', '\x7b'] ++ hexDigits c.toNat ++ ['\x7d'] := by
  unfold escapeChar
  split
  case h_7 plain _ _ _ _ _ =>
    split
    · exact .inr (.inl ⟨by assumption, rfl⟩)
    · exact .inr (.inr rfl)
  all_goals exact .inl ⟨_, by decide, rfl⟩

theorem escapeChar_ne_nil (c : Char) : escapeChar c ≠ [] := by
  obtain ⟨_, _, escaped⟩ | ⟨_, escaped⟩ | escaped := escapeChar_cases c <;> simp [escaped]

section

variable {c d : Char} {xs ys : List Char}

/-- Where one escape ends, another one would end too. -/
theorem escapeChar_append_inj (same : escapeChar c ++ xs = escapeChar d ++ ys) : c = d ∧ xs = ys := by
  have unlettered : ∀ entry ∈ shortEscapes, entry.2 ≠ 'u' := by decide
  have once : ∀ entry ∈ shortEscapes, ∀ other ∈ shortEscapes, entry.2 = other.2 → entry.1 = other.1 := by
    decide
  -- A backslash tells the escapes from what stands for itself, and the character behind it tells the
  -- letters from the numbers. Numbers are told apart by where they end.
  obtain ⟨letter, listed, escaped⟩ | ⟨plain, escaped⟩ | escaped := escapeChar_cases c <;>
  obtain ⟨letter', listed', escaped'⟩ | ⟨plain', escaped'⟩ | escaped' := escapeChar_cases d <;>
  simp only [escaped, escaped', List.append_assoc, List.cons_append, List.nil_append,
    List.cons.injEq, true_and] at same
  · obtain ⟨rfl, rest⟩ := same
    exact ⟨once _ listed _ listed' rfl, rest⟩
  · exact absurd same.1.symm plain'
  · exact absurd same.1 (unlettered _ listed)
  · exact absurd same.1 plain
  · exact same
  · exact absurd same.1 plain
  · exact absurd same.1.symm (unlettered _ listed')
  · exact absurd same.1.symm plain'
  · have cut := cutAt_append (brace_not_mem_hexDigits c.toNat) xs
    rw [same, cutAt_append (brace_not_mem_hexDigits d.toNat)] at cut
    injection cut with cut
    injection cut with numbers rests
    exact ⟨(Char.toNat_inj.mp (hexDigits_injective numbers)).symm, rests.symm⟩

theorem escaped_injective (same : xs.flatMap escapeChar = ys.flatMap escapeChar) : xs = ys := by
  induction xs generalizing ys with
  | nil =>
    cases ys with
    | nil => rfl
    | cons d ys => simp [escapeChar_ne_nil] at same
  | cons c xs ih =>
    cases ys with
    | nil => simp [escapeChar_ne_nil] at same
    | cons d ys =>
      obtain ⟨rfl, rest⟩ := escapeChar_append_inj same
      rw [ih rest]

end

theorem quote_injective {s t : String} (same : quote s = quote t) : s = t := by
  have chars := String.ofList_injective same
  exact String.toList_injective (escaped_injective
    (List.append_cancel_left (List.append_cancel_right chars)))

end ClusterBackup.Text
