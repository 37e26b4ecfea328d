/-
# The nearest double

A numerator and a denominator come into the nearest double by their quotient
only.  The exponent is the one at which the quotient has 53 bits before the
point, or else the least one (`exponentFor_eq`); scaling and rounding go by the
quotient as well.  So decimals of one value, such as `2.5` and `2.50`, have one
nearest double (`Decimal.toDouble_congr`).
-/

import LedgerRules.Proofs.Number.Value
import Mathlib.Algebra.Order.Floor.Semifield
import Mathlib.Data.Int.Log
import Mathlib.Data.Rat.Floor

namespace LedgerRules
namespace Binary64

variable {num den num' den' : Nat}

/-! ### Rounding -/

/-- A quotient that is extended by a factor is rounded as before. -/
theorem roundDiv_mul_left {k : Nat} (hk : 0 < k) (num den : Nat) :
    roundDiv (k * num) (k * den) = roundDiv num den := by
  unfold roundDiv
  rw [Nat.mul_div_mul_left _ _ hk, Nat.mul_mod_mul_left]
  dsimp only
  rw [Nat.mul_left_comm 2 k]
  simp only [Nat.mul_lt_mul_left hk]

/-- Equal quotients are rounded alike. -/
theorem roundDiv_congr (hd : 0 < den) (hd' : 0 < den') (h : num * den' = num' * den) :
    roundDiv num den = roundDiv num' den' := by
  calc roundDiv num den = roundDiv (den' * num) (den' * den) := (roundDiv_mul_left hd' _ _).symm
    _ = roundDiv (den * num') (den * den') := by
      rw [Nat.mul_comm den' num, h, Nat.mul_comm num' den, Nat.mul_comm den' den]
    _ = roundDiv num' den' := roundDiv_mul_left hd _ _

/-! ### Exponents -/

/-- A quotient that is scaled by a power of two has a denominator that is not
zero. -/
theorem scaled_pos (hd : 0 < den) (num : Nat) (e : Int) : 0 < (scaled num den e).2 := by
  unfold scaled
  split
  · exact hd
  · exact Nat.mul_pos hd (Nat.pow_pos (by decide))

/-- It is the quotient divided by that power. -/
theorem scaled_div (num den : Nat) (e : Int) :
    ((scaled num den e).1 : ℚ) / (scaled num den e).2 = num / den / 2 ^ e := by
  unfold scaled twoPow
  split
  · rename_i he
    obtain ⟨n, rfl⟩ := Int.exists_eq_neg_ofNat he
    rw [neg_neg, Int.toNat_natCast, zpow_neg, zpow_natCast, div_inv_eq_mul, div_mul_eq_mul_div]
    exact_mod_cast rfl
  · rename_i he
    obtain ⟨n, rfl⟩ := Int.eq_ofNat_of_zero_le (not_le.1 he).le
    rw [Int.toNat_natCast, zpow_natCast, div_div]
    exact_mod_cast rfl

/-- A quotient lies between powers of two that the bits of its parts give. -/
theorem quotient_bounds (hn : 0 < num) (hd : 0 < den) :
    (2 : ℚ) ^ ((num.log2 : Int) - den.log2 - 1) ≤ num / den ∧
      (num : ℚ) / den < 2 ^ ((num.log2 : Int) - den.log2 + 1) := by
  have hd' : (0 : ℚ) < den := by exact_mod_cast hd
  have bounds : ∀ n : Nat, 0 < n → (2 : ℚ) ^ (n.log2 : Int) ≤ n ∧
      (n : ℚ) < 2 ^ ((n.log2 : Int) + 1) := by
    intro n hn
    have hlow := Nat.log2_self_le hn.ne'
    have hhigh := Nat.lt_log2_self (n := n)
    exact ⟨by exact_mod_cast hlow, by exact_mod_cast hhigh⟩
  obtain ⟨hnlow, hnhigh⟩ := bounds num hn
  obtain ⟨hdlow, hdhigh⟩ := bounds den hd
  constructor
  · rw [le_div_iff₀ hd']
    calc (2 : ℚ) ^ ((num.log2 : Int) - den.log2 - 1) * den
        ≤ 2 ^ ((num.log2 : Int) - den.log2 - 1) * 2 ^ ((den.log2 : Int) + 1) :=
          mul_le_mul_of_nonneg_left hdhigh.le (zpow_pos two_pos _).le
      _ = 2 ^ (num.log2 : Int) := by
          rw [← zpow_add₀ two_ne_zero]
          congr 1
          omega
      _ ≤ num := hnlow
  · rw [div_lt_iff₀ hd']
    calc (num : ℚ) < 2 ^ ((num.log2 : Int) + 1) := hnhigh
      _ = 2 ^ ((num.log2 : Int) - den.log2 + 1) * 2 ^ (den.log2 : Int) := by
          rw [← zpow_add₀ two_ne_zero]
          congr 1
          omega
      _ ≤ 2 ^ ((num.log2 : Int) - den.log2 + 1) * den :=
          mul_le_mul_of_nonneg_left hdlow (zpow_pos two_pos _).le

/-- **The exponent is that of the quotient**: with it the quotient has 53 bits
before the point, unless it is the least exponent. -/
theorem exponentFor_eq (hn : 0 < num) (hd : 0 < den) :
    exponentFor num den = max minExponent (Int.log 2 ((num : ℚ) / den) - 52) := by
  have hx : (0 : ℚ) < num / den := div_pos (by exact_mod_cast hn) (by exact_mod_cast hd)
  obtain ⟨hlow, hhigh⟩ := quotient_bounds hn hd
  rw [← Nat.cast_ofNat, Int.zpow_le_iff_le_log Nat.one_lt_two hx] at hlow
  rw [← Nat.cast_ofNat, Int.lt_zpow_iff_log_lt Nat.one_lt_two hx] at hhigh
  have hguess : ∀ g : Int, (scaled num den g).1 < twoPow 53 * (scaled num den g).2 ↔
      Int.log 2 ((num : ℚ) / den) < g + 53 := by
    intro g
    have hpos : (0 : ℚ) < (scaled num den g).2 := by exact_mod_cast scaled_pos hd num g
    rw [← Int.lt_zpow_iff_log_lt Nat.one_lt_two hx, Nat.cast_ofNat, Int.add_comm,
      zpow_add₀ two_ne_zero, ← div_lt_iff₀ (zpow_pos two_pos g), ← scaled_div, div_lt_iff₀ hpos]
    exact_mod_cast Iff.rfl
  -- The bits of the parts leave two exponents, of which the guess is the lower one.
  unfold exponentFor
  dsimp only
  simp only [hguess]
  split <;> omega

/-! ### The nearest double -/

/-- Equal quotients are rounded alike at every exponent. -/
theorem roundDiv_scaled_congr (hd : 0 < den) (hd' : 0 < den') (hx : (num : ℚ) / den = num' / den')
    (e : Int) : roundDiv (scaled num den e).1 (scaled num den e).2 =
      roundDiv (scaled num' den' e).1 (scaled num' den' e).2 := by
  have hpos := scaled_pos hd num e
  have hpos' := scaled_pos hd' num' e
  have hscaled : ((scaled num den e).1 : ℚ) / (scaled num den e).2 =
      (scaled num' den' e).1 / (scaled num' den' e).2 := by
    rw [scaled_div, scaled_div, hx]
  rw [div_eq_div_iff (by exact_mod_cast hpos.ne') (by exact_mod_cast hpos'.ne')] at hscaled
  exact roundDiv_congr hpos hpos' (by exact_mod_cast hscaled)

/-- **Equal quotients have one nearest double.** So it does not matter in which
terms the digits of a text are brought. -/
theorem nearest_congr (negative : Bool) (hd : 0 < den) (hd' : 0 < den')
    (h : num * den' = num' * den) : nearest negative num den = nearest negative num' den' := by
  have hden : (den : ℚ) ≠ 0 := by exact_mod_cast hd.ne'
  have hden' : (den' : ℚ) ≠ 0 := by exact_mod_cast hd'.ne'
  have hx : (num : ℚ) / den = num' / den' := by
    rw [div_eq_div_iff hden hden']
    exact_mod_cast h
  have hzero : num = 0 ↔ num' = 0 := by
    have hzero : (num : ℚ) / den = 0 ↔ (num' : ℚ) / den' = 0 := by rw [hx]
    simpa [hden, hden'] using hzero
  unfold nearest
  by_cases hn : num = 0
  · rw [if_pos hn, if_pos (hzero.1 hn)]
  · have hn' : num' ≠ 0 := fun he => hn (hzero.2 he)
    have he : exponentFor num den = exponentFor num' den' := by
      rw [exponentFor_eq (Nat.pos_of_ne_zero hn) hd,
        exponentFor_eq (Nat.pos_of_ne_zero hn') hd', hx]
    rw [if_neg hn, if_neg hn', he]
    dsimp only
    rw [roundDiv_scaled_congr hd hd' hx]

end Binary64

/-- Decimals of one value have one nearest double, so numbers in a rule body are
written alike whatever places they have. -/
theorem Decimal.toDouble_congr {a b : Decimal} (h : a.value = b.value) :
    a.toDouble = b.toDouble := by
  have hsign : (a.coeff < 0) = (b.coeff < 0) := by
    have hnegative : a.isNegative = true ↔ b.isNegative = true := by
      rw [isNegative_iff, isNegative_iff, h]
    unfold isNegative at hnegative
    rw [decide_eq_true_iff, decide_eq_true_iff] at hnegative
    exact propext hnegative
  have hsize : a.coeff.natAbs * tenPow b.scale = b.coeff.natAbs * tenPow a.scale := by
    have heq := sameValue_iff.2 h
    unfold sameValue at heq
    rw [beq_iff_eq] at heq
    have hsize := congrArg Int.natAbs heq
    rwa [Int.natAbs_mul, Int.natAbs_mul, Int.natAbs_natCast, Int.natAbs_natCast] at hsize
  unfold toDouble
  simp only [hsign]
  rw [Binary64.nearest_congr _ (tenPow_pos _) (tenPow_pos _) hsize]

end LedgerRules
