/-
# The value of a decimal

A decimal stands for the rational `coeff / 10^scale`, and the comparisons of
decimals are those of their values.  What a test of a number means depends on
values alone, so `2` and `2.00` may stand for each other.
-/

import LedgerRules.Number.Decimal
import Mathlib.Algebra.Order.Field.Rat
import Mathlib.Algebra.Order.Field.Basic

namespace LedgerRules
namespace Decimal

/-- The rational number that a decimal stands for.  Comparisons of the program
are shown to be those of these numbers, so places do not matter anywhere else. -/
def value (d : Decimal) : ℚ := d.coeff / tenPow d.scale

/-- A power of ten is positive, also as a rational number. -/
theorem tenPow_cast_pos (n : Nat) : (0 : ℚ) < tenPow n := by exact_mod_cast tenPow_pos n

/-- Two decimals are the same in value if they stand for the same number. -/
theorem sameValue_iff {a b : Decimal} : a.sameValue b = true ↔ a.value = b.value := by
  unfold sameValue value
  rw [beq_iff_eq, div_eq_div_iff (tenPow_cast_pos _).ne' (tenPow_cast_pos _).ne']
  exact_mod_cast Iff.rfl

/-- One decimal is less than another if its number is. -/
theorem less_iff {a b : Decimal} : a.less b = true ↔ a.value < b.value := by
  unfold less value
  rw [decide_eq_true_iff, div_lt_div_iff₀ (tenPow_cast_pos _) (tenPow_cast_pos _)]
  exact_mod_cast Iff.rfl

/-- One decimal is at most another if its number is. -/
theorem atMost_iff {a b : Decimal} : a.atMost b = true ↔ a.value ≤ b.value := by
  unfold atMost
  rw [Bool.not_eq_true', ← Bool.not_eq_true, less_iff, not_lt]

/-- A decimal is negative if its number is; `-0` is not. -/
theorem isNegative_iff {d : Decimal} : d.isNegative = true ↔ d.value < 0 := by
  unfold isNegative value
  rw [decide_eq_true_iff, div_lt_iff₀ (tenPow_cast_pos _), zero_mul]
  exact_mod_cast Iff.rfl

/-- A whole decimal is the whole number it stands for. -/
theorem whole?_eq_some {d : Decimal} {n : Int} : d.whole? = some n ↔ d.value = n := by
  have hpos := tenPow_pos d.scale
  unfold whole? value
  rw [div_eq_iff (tenPow_cast_pos _).ne']
  constructor
  · intro h
    split at h
    · rename_i hmod
      rw [Option.some.injEq] at h
      have hd := Int.mul_ediv_cancel' (Int.dvd_of_emod_eq_zero hmod)
      rw [h, mul_comm] at hd
      exact_mod_cast hd.symm
    · cases h
  · intro h
    have h : d.coeff = n * tenPow d.scale := by exact_mod_cast h
    have hne : (tenPow d.scale : Int) ≠ 0 := by omega
    rw [h, Int.mul_emod_left, if_pos rfl, Int.mul_ediv_cancel _ hne]

/-- A whole number read as a decimal keeps its value. -/
theorem value_ofInt? {n : Int} {d : Decimal} (h : ofInt? n = some d) : d.value = n := by
  unfold ofInt? ofParts? at h
  split at h
  · obtain rfl := Option.some.inj h
    simp [value, tenPow]
  · cases h

/-- A whole number of less than 96 bits can be read as a decimal. -/
theorem exists_ofInt? {n : Int} (h : n.natAbs < coeffLimit) : ∃ d, ofInt? n = some d := by
  unfold ofInt? ofParts?
  rw [dif_pos ⟨Nat.zero_le _, h⟩]
  exact ⟨_, rfl⟩

end Decimal
end LedgerRules
