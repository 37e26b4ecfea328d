/-
# Amounts in hundredths

An amount is stored as a number of hundredths, and rounded to that: to the
nearest, a half away from zero (`toCents_eq_roundAway`).  Nothing is lost where
the amount is a whole number of hundredths with room in a cell: it comes back
with its value, though not always with as many places as it was written with.
-/

import LedgerRules.Proofs.Number.Value
import LedgerRules.Store.Database.Cell
import Mathlib.Data.Rat.Floor
import Mathlib.Tactic.FieldSimp
import Mathlib.Tactic.Ring

namespace LedgerRules
namespace Decimal

/-- The amount is a whole number of hundredths that has room in a cell: it has
at most two places and is below `10^16` in size.  The column is `DECIMAL(18,
2)`. -/
def FitsCell (d : Decimal) : Prop :=
  ∃ cents : Int, d.value = cents / 100 ∧ cents.natAbs < centsLimit

variable {d e : Decimal} {cents : Int}

/-! ### Rounding -/

/-- The whole number that is nearest, and of two the one away from zero, as the
cast to a decimal column rounds.  Amounts are kept in whole hundredths by it. -/
def roundAway (q : ℚ) : ℤ := if q < 0 then -⌊-q + 1 / 2⌋ else ⌊q + 1 / 2⌋

/-- A whole number is not rounded. -/
theorem roundAway_intCast (n : ℤ) : roundAway n = n := by
  have hfloor : ∀ k : ℤ, ⌊(k : ℚ) + 1 / 2⌋ = k := by
    intro k
    rw [Int.floor_intCast_add, show ⌊(1 / 2 : ℚ)⌋ = 0 by norm_num, add_zero]
  have hneg := hfloor (-n)
  rw [Int.cast_neg] at hneg
  unfold roundAway
  rw [hfloor, hneg, neg_neg, ite_self]

/-- **An amount is stored in hundredths**, rounded to the nearest, a half away
from zero.  Both signs are rounded alike. -/
theorem toCents_eq_roundAway (d : Decimal) : d.toCents = roundAway (100 * d.value) := by
  have hscale := tenPow_cast_pos d.scale
  have hsize : ((2 * (d.coeff.natAbs * 100) + tenPow d.scale) / (2 * tenPow d.scale) : Nat) =
      ⌊100 * ((d.coeff.natAbs : ℚ) / tenPow d.scale) + 1 / 2⌋ := by
    rw [Int.natCast_div, ← Rat.floor_natCast_div_natCast]
    congr 1
    push_cast
    field_simp
  have hnegative : 100 * d.value < 0 ↔ d.coeff < 0 := by
    have hvalue := isNegative_iff (d := d)
    unfold isNegative at hvalue
    rw [decide_eq_true_iff] at hvalue
    rw [hvalue, mul_neg_iff]
    norm_num
  unfold roundAway toCents
  dsimp only
  rw [hsize]
  unfold value at hnegative ⊢
  by_cases h : d.coeff < 0
  · obtain ⟨n, hn⟩ := Int.exists_eq_neg_ofNat h.le
    rw [if_pos h, if_pos (hnegative.2 h), hn, Int.natAbs_neg, Int.natAbs_natCast, Int.cast_neg,
      Int.cast_natCast, neg_div, mul_neg, neg_neg]
  · obtain ⟨n, hn⟩ := Int.eq_ofNat_of_zero_le (Int.not_lt.1 h)
    rw [if_neg h, if_neg fun hn => h (hnegative.1 hn), hn, Int.natAbs_natCast, Int.cast_natCast]

/-- Whole hundredths are not rounded. -/
theorem toCents_of_value (h : d.value = cents / 100) : d.toCents = cents := by
  rw [toCents_eq_roundAway, h, mul_div_cancel₀ _ (by norm_num), roundAway_intCast]

/-- Hundredths that have room in a cell are read as the amount they are. -/
theorem value_ofCents_of_lt (h : cents.natAbs < centsLimit) :
    (ofCents cents).value = cents / 100 := by
  have hparts : 2 ≤ maxScale ∧ cents.natAbs < coeffLimit :=
    ⟨by decide, Nat.lt_trans h (by decide)⟩
  unfold ofCents ofParts?
  rw [dif_pos hparts]
  rfl

/-! ### Amounts that fit -/

/-- An amount that fits has its cell, and nothing is rounded. -/
theorem FitsCell.toCell? (h : d.FitsCell) : d.toCell? = some d.toCents := by
  obtain ⟨cents, hv, hroom⟩ := h
  refine if_pos ?_
  rwa [toCents_of_value hv]

/-- **An amount comes back from its cell with its value**, though it may come
back with other places. -/
theorem FitsCell.value_ofCents (h : d.FitsCell) : (ofCents d.toCents).value = d.value := by
  obtain ⟨cents, hv, hroom⟩ := h
  rw [toCents_of_value hv, hv, value_ofCents_of_lt hroom]

/-- What has the value of an amount is stored as it. -/
theorem FitsCell.toCents_congr (h : d.FitsCell) (he : e.value = d.value) :
    e.toCents = d.toCents := by
  obtain ⟨cents, hv, -⟩ := h
  rw [toCents_of_value hv, toCents_of_value (he.trans hv)]

/-- Amounts of one value fit alike, whatever places they have. -/
theorem FitsCell.congr (h : d.FitsCell) (he : e.value = d.value) : e.FitsCell := by
  obtain ⟨cents, hv, hroom⟩ := h
  exact ⟨cents, he.trans hv, hroom⟩

end Decimal
end LedgerRules
