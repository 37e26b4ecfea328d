/-
# The digits of a double

The digits that a double is written with are those of a decimal that has it as
its nearest double, or its exact expansion; dropping zeros at the end does not
change what they stand for (`size_shortest`).  Either way they stand for no more
than the middle between the two greatest doubles, unless the double is the
greatest one (`size_shortest_lt`).
-/

import LedgerRules.Number.Shortest
import LedgerRules.Proofs.Number.Rounding

namespace LedgerRules

namespace DigitString

/-- What the digits stand for, sign aside. -/
def size (d : DigitString) : ℚ := d.digits * 10 ^ d.place

/-- Digits are a quotient with a denominator that is not zero. -/
theorem ratio_pos (d : DigitString) : 0 < d.ratio.2 := by
  unfold ratio
  split
  · exact tenPow_pos _
  · exact Nat.one_pos

/-- The quotient is what the digits stand for. -/
theorem ratio_div (d : DigitString) : (d.ratio.1 : ℚ) / d.ratio.2 = d.size := by
  unfold ratio size
  split
  · rename_i hplace
    obtain ⟨n, hn⟩ := Int.exists_eq_neg_ofNat hplace
    rw [hn, neg_neg, Int.toNat_natCast, zpow_neg, zpow_natCast, ← div_eq_mul_inv, cast_tenPow]
  · rename_i hplace
    obtain ⟨n, hn⟩ := Int.eq_ofNat_of_zero_le (not_le.1 hplace).le
    rw [hn, Int.toNat_natCast, zpow_natCast, Nat.cast_one, div_one, Nat.cast_mul, cast_tenPow]

/-- Zeros at the end that are dropped do not count. -/
theorem size_trimZeros (fuel : Nat) (d : DigitString) : (trimZeros fuel d).size = d.size := by
  induction fuel generalizing d with
  | zero => rfl
  | succ fuel ih =>
    rw [trimZeros]
    split
    · rename_i hzero
      have hdigits : d.digits = d.digits / 10 * 10 := by omega
      rw [ih]
      unfold size
      dsimp only
      rw [zpow_add_one₀ (by norm_num), mul_comm (_ ^ d.place), ← mul_assoc]
      congr 1
      exact_mod_cast hdigits.symm
    · rfl

/-- Digits other than zero stay so. -/
theorem digits_trimZeros_ne {d : DigitString} (h : d.digits ≠ 0) (fuel : Nat) :
    (trimZeros fuel d).digits ≠ 0 := by
  induction fuel generalizing d with
  | zero => exact h
  | succ fuel ih =>
    rw [trimZeros]
    split
    · refine ih ?_
      dsimp only
      omega
    · exact h

end DigitString

namespace Binary64

variable {x : Binary64}

/-- The search gives a decimal with the double as its nearest one. -/
theorem searchDigits_spec {order : Int} {fuel n : Nat} {d : DigitString}
    (h : searchDigits x order fuel n = some d) :
    d.digits ≠ 0 ∧ d.nearest x.negative = some x := by
  induction fuel generalizing n with
  | zero => cases h
  | succ fuel ih =>
    rw [searchDigits] at h
    split at h
    · rename_i d' hfound
      cases h
      have htest := List.find?_some hfound
      rwa [Bool.and_eq_true, beq_iff_eq, decide_eq_true_iff] at htest
    · exact ih h

/-- The exact digits of a double stand for its magnitude. -/
theorem size_exactDigits (x : Binary64) : x.exactDigits.size = x.size := by
  unfold exactDigits DigitString.size size twoPow
  split
  · rename_i he
    obtain ⟨n, hn⟩ := Int.exists_eq_neg_ofNat he
    dsimp only
    rw [hn, neg_neg, Int.toNat_natCast, zpow_neg, zpow_neg, zpow_natCast, zpow_natCast,
      Nat.cast_mul, mul_assoc]
    congr 1
    have hten : (10 : ℚ) ^ n = 5 ^ n * 2 ^ n := by
      rw [← mul_pow]
      norm_num
    have hfive : ((Nat.pow 5 n : Nat) : ℚ) = 5 ^ n := Nat.cast_pow 5 n
    have hne : (5 : ℚ) ^ n ≠ 0 := pow_ne_zero n (by norm_num)
    rw [hten, hfive, mul_inv, ← mul_assoc, mul_inv_cancel₀ hne, one_mul]
  · rename_i he
    obtain ⟨n, hn⟩ := Int.eq_ofNat_of_zero_le (not_le.1 he).le
    dsimp only
    have htwo : ((Nat.pow 2 n : Nat) : ℚ) = 2 ^ n := Nat.cast_pow 2 n
    rw [hn, Int.toNat_natCast, zpow_zero, mul_one, Nat.cast_mul, htwo, zpow_natCast]

/-- **What the written digits stand for** has the double as its nearest one, or
is its magnitude.  The second is what remains when the search gives up. -/
theorem size_shortest (x : Binary64) : x.shortest.size = x.size ∨
    ∃ d : DigitString, x.shortest.size = d.size ∧ d.nearest x.negative = some x := by
  unfold shortest
  split
  · rename_i hzero
    left
    unfold DigitString.size size
    rw [hzero, Nat.cast_zero, zero_mul, zero_mul]
  · dsimp only
    rw [DigitString.size_trimZeros]
    cases hsearch : searchDigits x (decimalOrder x.ratio.1 x.ratio.2) 17 1 with
    | none => exact .inl x.size_exactDigits
    | some d => exact .inr ⟨d, rfl, (searchDigits_spec hsearch).2⟩

/-- Only zero is written with the digit zero. -/
theorem shortest_eq_zero (h : x.shortest.digits = 0) : x.shortest = ⟨0, 0⟩ := by
  unfold shortest at h ⊢
  split at h
  · rename_i hzero
    rw [if_pos hzero]
  · rename_i hne
    refine absurd h (DigitString.digits_trimZeros_ne ?_ _)
    cases hsearch : searchDigits x (decimalOrder x.ratio.1 x.ratio.2) 17 1 with
    | some d => exact (searchDigits_spec hsearch).1
    | none =>
      rw [Option.getD_none]
      unfold exactDigits
      split
      · exact Nat.mul_ne_zero hne (Nat.pow_pos (by decide)).ne'
      · exact Nat.mul_ne_zero hne (Nat.pow_pos (by decide)).ne'

/-- **The digits of a double stay below the middle** between the two greatest,
unless it is the greatest one.  So what is written of it can be read. -/
theorem size_shortest_lt (h : x.InRange)
    (hne : ¬(x.significand = greatest.significand ∧ x.exponent = greatest.exponent)) :
    x.shortest.size < greatestMiddle + 1 := by
  obtain ⟨hmiddle, hless⟩ := size_lt_greatest h hne
  rcases size_shortest x with hsize | ⟨d, hsize, hnearest⟩
  · rw [hsize]
    exact hmiddle.trans_lt (lt_add_one _)
  · -- Past the middle, the nearest double would be the greatest one.
    rw [hsize]
    by_contra hpast
    have hgreatest : nearest false (greatestMiddle + 1) 1 = some greatest := by decide +kernel
    have hle : rounded (greatestMiddle + 1) 1 ≤ rounded d.ratio.1 d.ratio.2 := by
      refine rounded_mono Nat.one_pos d.ratio_pos ?_
      rw [d.ratio_div, Nat.cast_one, div_one]
      exact_mod_cast not_lt.1 hpast
    rw [← (nearest_eq_some Nat.one_pos hgreatest).2,
      ← (nearest_eq_some d.ratio_pos hnearest).2] at hle
    exact absurd hless (not_lt.2 hle)

end Binary64
end LedgerRules
