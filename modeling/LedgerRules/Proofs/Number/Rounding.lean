/-
# Rounding keeps the order

A greater quotient is rounded to a double that is not smaller (`rounded_mono`).
At one exponent that is a matter of rounding to whole numbers; at two, the power
of two between them is rounded to itself.  `nearest` gives a double as long as
what is rounded to lies below `2^1024` (`nearest_cases`), so of the quotients
that have a nearest double all that are smaller have one as well
(`exists_nearest_of_le`).
-/

import LedgerRules.Proofs.Number.Nearest
import Mathlib.Tactic.Linarith
import Mathlib.Tactic.Positivity

namespace LedgerRules

/-- As a rational the power of ten is the usual one. -/
theorem cast_tenPow (n : Nat) : (tenPow n : ℚ) = 10 ^ n := Nat.cast_pow 10 n

/-- Powers of ten ascend. -/
theorem tenPow_le_tenPow {m n : Nat} (h : m ≤ n) : tenPow m ≤ tenPow n :=
  Nat.pow_le_pow_right (by decide) h

namespace Binary64

variable {num den num' den' : Nat}

/-! ### Whole numbers -/

/-- What is rounded to a whole number moves by half at the most, in either
direction. -/
theorem roundDiv_bounds (num : Nat) (hd : 0 < den) : 2 * num ≤ (2 * roundDiv num den + 1) * den ∧
    2 * roundDiv num den * den ≤ 2 * num + den := by
  have hrest := Nat.mod_lt num hd
  have hparts := Nat.div_add_mod' num den
  have hsplit : roundDiv num den = num / den ∧ 2 * (num % den) ≤ den ∨
      roundDiv num den = num / den + 1 ∧ den ≤ 2 * (num % den) := by
    unfold roundDiv
    dsimp only
    split_ifs <;> omega
  rcases hsplit with ⟨hq, hr⟩ | ⟨hq, hr⟩ <;> rw [hq]
  · constructor <;> simp only [Nat.add_mul, Nat.mul_assoc] <;> omega
  · constructor <;> simp only [Nat.add_mul, Nat.mul_add, Nat.mul_assoc] <;> omega

/-- A quotient below a whole number is rounded to that number at most. -/
theorem roundDiv_le {k : Nat} (hd : 0 < den) (h : num < k * den) : roundDiv num den ≤ k := by
  have hupper := (roundDiv_bounds num hd).2
  by_contra hlt
  have hmul : (2 * k + 2) * den ≤ 2 * roundDiv num den * den :=
    Nat.mul_le_mul_right den (by omega)
  nlinarith

/-- A quotient from a whole number on is rounded to that number at least. -/
theorem le_roundDiv {k : Nat} (hd : 0 < den) (h : k * den ≤ num) : k ≤ roundDiv num den := by
  have hlower := (roundDiv_bounds num hd).1
  by_contra hlt
  have hmul : (2 * roundDiv num den + 2) * den ≤ 2 * k * den := Nat.mul_le_mul_right den (by omega)
  nlinarith

/-- **Whole numbers are rounded to in their order.** A half goes to the even
one, which does not upset it. -/
theorem roundDiv_mono (hd : 0 < den) (hd' : 0 < den') (h : num * den' ≤ num' * den) :
    roundDiv num den ≤ roundDiv num' den' := by
  by_contra hlt
  have hupper := (roundDiv_bounds num hd).2
  have hlower := (roundDiv_bounds num' hd').1
  -- Rounded apart, both quotients lie half way between two whole numbers, so they are equal.
  have hstep : (2 * roundDiv num' den' + 1) * den ≤ 2 * num := by
    have hmul : (2 * roundDiv num' den' + 2) * den ≤ 2 * roundDiv num den * den :=
      Nat.mul_le_mul_right den (by omega)
    nlinarith
  have heq : num * den' = num' * den := by
    refine Nat.le_antisymm h ?_
    have h1 := Nat.mul_le_mul_right den hlower
    have h2 := Nat.mul_le_mul_right den' hstep
    nlinarith
  exact hlt (roundDiv_congr hd hd' heq).le

/-! ### Quotients -/

/-- Powers of two are multiplied by adding their exponents, one of them a
natural number. -/
theorem two_pow_mul_zpow {n : Nat} {e f : Int} (h : n + e = f) : (2 : ℚ) ^ n * 2 ^ e = 2 ^ f := by
  rw [← zpow_natCast, ← zpow_add₀ two_ne_zero, h]

/-- What a quotient is rounded to, where exponents have no upper bound.  Whether
there is a nearest double is then a matter of its size alone. -/
def rounded (num den : Nat) : ℚ :=
  roundDiv (scaled num den (exponentFor num den)).1 (scaled num den (exponentFor num den)).2 *
    2 ^ exponentFor num den

/-- At its exponent a quotient is scaled to less than `2^53`, and to `2^52` or
more unless the exponent is the least one. -/
theorem scaled_bounds (hn : 0 < num) (hd : 0 < den) :
    (num : ℚ) / den < 2 ^ (exponentFor num den + 53) ∧
      (minExponent < exponentFor num den → (2 : ℚ) ^ (exponentFor num den + 52) ≤ num / den) := by
  have hx : (0 : ℚ) < num / den := div_pos (by exact_mod_cast hn) (by exact_mod_cast hd)
  rw [exponentFor_eq hn hd, ← Nat.cast_ofNat (R := ℚ), Int.lt_zpow_iff_log_lt Nat.one_lt_two hx,
    Int.zpow_le_iff_le_log Nat.one_lt_two hx]
  exact ⟨by omega, by omega⟩

/-- The whole number that a quotient is scaled and rounded to has 53 bits, or is
the next power of two. -/
theorem roundDiv_scaled_bounds (hn : 0 < num) (hd : 0 < den) :
    roundDiv (scaled num den (exponentFor num den)).1 (scaled num den (exponentFor num den)).2 ≤
        2 ^ 53 ∧
      (minExponent < exponentFor num den → 2 ^ 52 ≤
        roundDiv (scaled num den (exponentFor num den)).1
          (scaled num den (exponentFor num den)).2) := by
  obtain ⟨hhigh, hlow⟩ := scaled_bounds hn hd
  generalize exponentFor num den = e at *
  have hpos := scaled_pos hd num e
  have hpos' : (0 : ℚ) < (scaled num den e).2 := by exact_mod_cast hpos
  have htwo : (0 : ℚ) < 2 ^ e := zpow_pos two_pos e
  have hquot := scaled_div num den e
  constructor
  · refine roundDiv_le hpos ?_
    have hlt : ((scaled num den e).1 : ℚ) / (scaled num den e).2 < 2 ^ 53 := by
      rw [hquot, div_lt_iff₀ htwo, two_pow_mul_zpow (Int.add_comm _ e)]
      exact hhigh
    rw [div_lt_iff₀ hpos'] at hlt
    exact_mod_cast hlt
  · intro he
    refine le_roundDiv hpos ?_
    have hle : (2 : ℚ) ^ 52 ≤ ((scaled num den e).1 : ℚ) / (scaled num den e).2 := by
      rw [hquot, le_div_iff₀ htwo, two_pow_mul_zpow (Int.add_comm _ e)]
      exact hlow he
    rw [le_div_iff₀ hpos'] at hle
    exact_mod_cast hle

/-- Nothing is rounded to nothing. -/
theorem rounded_zero (den : Nat) : rounded 0 den = 0 := by
  have hzero : ∀ e d, roundDiv (scaled 0 d e).1 (scaled 0 d e).2 = 0 := by
    intro e d
    unfold scaled
    split <;> simp [roundDiv]
  unfold rounded
  rw [hzero, Nat.cast_zero, zero_mul]

/-- **Quotients are rounded in their order.** The exponents of the two may
differ; then a power of two lies between them. -/
theorem rounded_mono (hd : 0 < den) (hd' : 0 < den') (h : (num : ℚ) / den ≤ num' / den') :
    rounded num den ≤ rounded num' den' := by
  rcases Nat.eq_zero_or_pos num with rfl | hn
  · rw [rounded_zero]
    exact mul_nonneg (Nat.cast_nonneg _) (zpow_pos two_pos _).le
  have hx : (0 : ℚ) < num / den := div_pos (by exact_mod_cast hn) (by exact_mod_cast hd)
  have hn' : 0 < num' := by
    rcases Nat.eq_zero_or_pos num' with rfl | hn'
    · simp at h
      linarith
    · exact hn'
  have hexp : exponentFor num den ≤ exponentFor num' den' := by
    rw [exponentFor_eq hn hd, exponentFor_eq hn' hd']
    have hlog : Int.log 2 ((num : ℚ) / den) ≤ Int.log 2 ((num' : ℚ) / den') :=
      Int.log_mono_right hx h
    omega
  unfold rounded
  rcases hexp.eq_or_lt with heq | hlt
  · -- At one exponent the scaled quotients are in the same order.
    rw [heq]
    have htwo : (0 : ℚ) < 2 ^ exponentFor num' den' := zpow_pos two_pos _
    refine mul_le_mul_of_nonneg_right ?_ htwo.le
    have hpos := scaled_pos hd num (exponentFor num' den')
    have hpos' := scaled_pos hd' num' (exponentFor num' den')
    have hscaled := div_le_div_of_nonneg_right h htwo.le
    rw [← scaled_div, ← scaled_div,
      div_le_div_iff₀ (by exact_mod_cast hpos) (by exact_mod_cast hpos')] at hscaled
    exact_mod_cast roundDiv_mono hpos hpos' (by exact_mod_cast hscaled)
  · -- At two exponents a power of two stands between what they are rounded to.
    have hhigh := (roundDiv_scaled_bounds hn hd).1
    have hlow := (roundDiv_scaled_bounds hn' hd').2 <| by
      rw [exponentFor_eq hn hd] at hlt
      omega
    calc (roundDiv (scaled num den (exponentFor num den)).1
          (scaled num den (exponentFor num den)).2 : ℚ) * 2 ^ exponentFor num den
        ≤ 2 ^ 53 * 2 ^ exponentFor num den := by
          refine mul_le_mul_of_nonneg_right ?_ (zpow_pos two_pos _).le
          exact_mod_cast hhigh
      _ ≤ 2 ^ 52 * 2 ^ exponentFor num' den' := by
          rw [two_pow_mul_zpow rfl, two_pow_mul_zpow rfl]
          exact zpow_le_zpow_right₀ one_le_two (by push_cast; omega)
      _ ≤ _ := by
          refine mul_le_mul_of_nonneg_right ?_ (zpow_pos two_pos _).le
          exact_mod_cast hlow

/-! ### The nearest double -/

/-- The magnitude of a double, as an exact rational number.  Doubles are
compared with what they were read from by it. -/
def size (x : Binary64) : ℚ := x.significand * 2 ^ x.exponent

/-- The significand has no more than 53 bits, and the exponent is one that
doubles have.  A double has several such forms; none of them is singled out
here. -/
structure InRange (x : Binary64) : Prop where
  significand : x.significand < 2 ^ 53
  low : minExponent ≤ x.exponent
  high : x.exponent ≤ maxExponent

/-- Zero is in range, with either sign. -/
theorem inRange_zero (negative : Bool) : (zero negative).InRange :=
  ⟨Nat.two_pow_pos 53, le_rfl, show minExponent ≤ maxExponent by decide⟩

/-- A sign changes nothing about the range. -/
theorem InRange.neg {x : Binary64} (h : x.InRange) : x.neg.InRange :=
  ⟨h.significand, h.low, h.high⟩

/-- No magnitude is negative. -/
theorem size_nonneg (x : Binary64) : 0 ≤ x.size :=
  mul_nonneg (Nat.cast_nonneg _) (zpow_pos two_pos _).le

/-- Rounded up to the next power of two, a quotient moves on to the next
exponent.  Then it has 53 bits, and the first of them is set unless the exponent
is the least one. -/
theorem carry_spec {q : Nat} {e : Int} (hmin : minExponent ≤ e) (hhigh : q ≤ 2 ^ 53)
    (hlow : minExponent < e → 2 ^ 52 ≤ q) : ∃ q' e',
      (if q = twoPow 53 then (twoPow 52, e + 1) else (q, e)) = (q', e') ∧
      (q' : ℚ) * 2 ^ e' = q * 2 ^ e ∧ q' < 2 ^ 53 ∧ minExponent ≤ e' ∧
      (minExponent < e' → 2 ^ 52 ≤ q') := by
  by_cases hq : q = 2 ^ 53
  · refine ⟨twoPow 52, e + 1, if_pos hq, ?_, show twoPow 52 < 2 ^ 53 by decide, by omega,
      fun _ => le_rfl⟩
    show ((2 ^ 52 : Nat) : ℚ) * 2 ^ (e + 1) = q * 2 ^ e
    rw [hq, Nat.cast_pow, Nat.cast_pow, Nat.cast_ofNat, two_pow_mul_zpow rfl, two_pow_mul_zpow rfl]
    congr 1
    push_cast
    omega
  · exact ⟨q, e, if_neg hq, rfl, lt_of_le_of_ne hhigh hq, hmin, hlow⟩

/-- **There is a nearest double** as long as what is rounded to lies below
`2^1024`, and its magnitude is that. -/
theorem nearest_cases (negative : Bool) (num : Nat) (hd : 0 < den) :
    (∃ x, nearest negative num den = some x ∧ x.InRange ∧ x.size = rounded num den ∧
      rounded num den < 2 ^ 1024) ∨
    nearest negative num den = none ∧ 2 ^ 1024 ≤ rounded num den := by
  rcases Nat.eq_zero_or_pos num with rfl | hn
  · refine .inl ⟨zero negative, rfl, inRange_zero negative, ?_, ?_⟩ <;> rw [rounded_zero]
    · exact zero_mul _
    · exact pow_pos two_pos _
  obtain ⟨hhigh, hlow⟩ := roundDiv_scaled_bounds hn hd
  have hmin : minExponent ≤ exponentFor num den := by
    rw [exponentFor_eq hn hd]
    exact le_max_left _ _
  obtain ⟨q, e, hcarry, hsize, hq, he, hbits⟩ := carry_spec hmin hhigh hlow
  have htwo : (0 : ℚ) < 2 ^ e := zpow_pos two_pos e
  unfold nearest rounded
  rw [if_neg hn.ne']
  dsimp only
  rw [hcarry, ← hsize]
  dsimp only
  split
  · rename_i hlarge
    refine .inr ⟨rfl, ?_⟩
    have hset := hbits (lt_trans (by decide) hlarge)
    calc (2 : ℚ) ^ 1024 = 2 ^ 52 * 2 ^ (972 : Int) := by
          rw [two_pow_mul_zpow rfl]
          exact (zpow_natCast 2 1024).symm
      _ ≤ (q : ℚ) * 2 ^ e := by
          refine mul_le_mul (by exact_mod_cast hset) ?_ (zpow_pos two_pos _).le (Nat.cast_nonneg q)
          exact zpow_le_zpow_right₀ one_le_two hlarge
  · rename_i hfits
    refine .inl ⟨_, rfl, ⟨hq, he, not_lt.1 hfits⟩, rfl, ?_⟩
    calc (q : ℚ) * 2 ^ e < 2 ^ 53 * 2 ^ e := mul_lt_mul_of_pos_right (by exact_mod_cast hq) htwo
      _ ≤ 2 ^ 53 * 2 ^ (971 : Int) := by
          refine mul_le_mul_of_nonneg_left ?_ (pow_pos two_pos 53).le
          exact zpow_le_zpow_right₀ one_le_two (not_lt.1 hfits)
      _ = 2 ^ 1024 := by
          rw [two_pow_mul_zpow rfl]
          exact zpow_natCast 2 1024

/-- A nearest double has the magnitude that is rounded to. -/
theorem nearest_eq_some {negative : Bool} {x : Binary64} (hd : 0 < den)
    (h : nearest negative num den = some x) : x.InRange ∧ x.size = rounded num den := by
  rcases nearest_cases negative num hd with ⟨y, hy, hrange, hsize, -⟩ | ⟨hnone, -⟩
  · rw [h] at hy
    obtain rfl := Option.some.inj hy
    exact ⟨hrange, hsize⟩
  · rw [h] at hnone
    cases hnone

/-- **What is no greater than a quotient with a nearest double has one**, and
that is no greater. -/
theorem exists_nearest_of_le (negative : Bool) {negative' : Bool} {y : Binary64} (hd : 0 < den)
    (hd' : 0 < den') (h : (num : ℚ) / den ≤ num' / den')
    (hy : nearest negative' num' den' = some y) :
    ∃ x, nearest negative num den = some x ∧ x.size ≤ y.size := by
  have hmono := rounded_mono hd hd' h
  have hysize := (nearest_eq_some hd' hy).2
  rcases nearest_cases negative num hd with ⟨x, hx, -, hsize, -⟩ | ⟨-, hlarge⟩
  · exact ⟨x, hx, by rw [hsize, hysize]; exact hmono⟩
  · rcases nearest_cases negative' num' hd' with ⟨_, -, -, -, hlt⟩ | ⟨hnone, -⟩
    · exact absurd (hlarge.trans hmono) (not_le.2 hlt)
    · rw [hy] at hnone
      cases hnone

/-! ### The greatest doubles -/

/-- The greatest double: all bits of the significand set, at the greatest
exponent. -/
def greatest : Binary64 := ⟨false, 2 ^ 53 - 1, 971⟩

/-- The middle between the two greatest doubles.  What stays below it can be
read back, with room for one more rounding. -/
@[irreducible]
def greatestMiddle : Nat := 2 ^ 1024 - 3 * 2 ^ 970

/-- **Every other magnitude of a double is smaller**, and lies below the middle. -/
theorem size_lt_greatest {x : Binary64} (h : x.InRange)
    (hne : ¬(x.significand = greatest.significand ∧ x.exponent = greatest.exponent)) :
    x.size ≤ greatestMiddle ∧ x.size < greatest.size := by
  have hsignificand := h.significand
  have hexponent : x.exponent ≤ 971 := h.high
  have htwo : (0 : ℚ) < 2 ^ (971 : Int) := zpow_pos two_pos _
  have hsecond : x.size ≤ (2 ^ 53 - 2 : Nat) * 2 ^ (971 : Int) := by
    unfold size
    rcases hexponent.eq_or_lt with heq | hlt
    · have hle : x.significand ≤ 2 ^ 53 - 2 := by
        have hother : x.significand ≠ 2 ^ 53 - 1 := fun hs => hne ⟨hs, heq⟩
        omega
      rw [heq]
      exact mul_le_mul_of_nonneg_right (by exact_mod_cast hle) htwo.le
    · calc (x.significand : ℚ) * 2 ^ x.exponent ≤ 2 ^ 53 * 2 ^ (970 : Int) := by
            refine mul_le_mul (by exact_mod_cast hsignificand.le)
              (zpow_le_zpow_right₀ one_le_two (by omega)) (zpow_pos two_pos _).le (by positivity)
        _ = 2 ^ 52 * 2 ^ (971 : Int) := by
            rw [two_pow_mul_zpow rfl, two_pow_mul_zpow rfl]
            rfl
        _ ≤ _ := mul_le_mul_of_nonneg_right (by norm_num) htwo.le
  refine ⟨hsecond.trans ?_, hsecond.trans_lt ?_⟩
  · have hmiddle : (2 ^ 53 - 2) * 2 ^ 971 ≤ greatestMiddle := by decide +kernel
    rw [show (2 : ℚ) ^ (971 : Int) = (2 ^ 971 : Nat) by
      rw [Nat.cast_pow]
      exact zpow_natCast 2 971]
    exact_mod_cast hmiddle
  · exact mul_lt_mul_of_pos_right (by norm_num [greatest]) htwo

/-! ### Products and quotients of doubles -/

/-- A double is a quotient with a denominator that is not zero. -/
theorem ratio_pos (x : Binary64) : 0 < x.ratio.2 := by
  unfold ratio
  split
  · exact Nat.pow_pos (by decide)
  · exact Nat.one_pos

/-- The quotient is the magnitude of the double. -/
theorem ratio_div (x : Binary64) : (x.ratio.1 : ℚ) / x.ratio.2 = x.size := by
  unfold ratio size twoPow
  split
  · rename_i he
    obtain ⟨n, hn⟩ := Int.exists_eq_neg_ofNat he
    rw [hn, neg_neg, Int.toNat_natCast, zpow_neg, zpow_natCast, ← div_eq_mul_inv]
    exact_mod_cast rfl
  · rename_i he
    obtain ⟨n, hn⟩ := Int.eq_ofNat_of_zero_le (not_le.1 he).le
    rw [hn, Int.toNat_natCast, zpow_natCast, Nat.cast_one, div_one]
    exact_mod_cast rfl

/-- A double other than zero has a numerator that is not zero. -/
theorem ratio_pos_of_size {x : Binary64} (h : 0 < x.size) : 0 < x.ratio.1 := by
  rw [← ratio_div] at h
  refine Nat.pos_of_ne_zero fun hzero => ?_
  rw [hzero, Nat.cast_zero, zero_div] at h
  exact lt_irrefl _ h

variable {x y x' y' z z' : Binary64}

/-- A product that is a double is in range. -/
theorem inRange_mul? (h : x.mul? y = some z) : z.InRange :=
  (nearest_eq_some (Nat.mul_pos x.ratio_pos y.ratio_pos) h).1

/-- A quotient that is a double is in range. -/
theorem inRange_div? (hy : 0 < y.size) (h : x.div? y = some z) : z.InRange :=
  (nearest_eq_some (Nat.mul_pos x.ratio_pos (ratio_pos_of_size hy)) h).1

/-- What is no greater than a product that is a double is rounded to one as
well. -/
theorem exists_mul?_of_le (h : x.size * y.size ≤ x'.size * y'.size) (hz : x'.mul? y' = some z') :
    ∃ z, x.mul? y = some z := by
  have hproduct : ∀ x y : Binary64, ((x.ratio.1 * y.ratio.1 : Nat) : ℚ) /
      (x.ratio.2 * y.ratio.2 : Nat) = x.size * y.size := by
    intro x y
    rw [Nat.cast_mul, Nat.cast_mul, ← div_mul_div_comm, ratio_div, ratio_div]
  obtain ⟨z, hz, -⟩ := exists_nearest_of_le (x.negative != y.negative)
    (Nat.mul_pos x.ratio_pos y.ratio_pos) (Nat.mul_pos x'.ratio_pos y'.ratio_pos)
    (by rw [hproduct, hproduct]; exact h) hz
  exact ⟨z, hz⟩

/-- A quotient that is no greater than a double is rounded to one that is no
greater. -/
theorem exists_div?_of_le (hy : 0 < y.size) {negative : Bool} (hd : 0 < den)
    (h : x.size / y.size ≤ num / den) (hz : nearest negative num den = some z') :
    ∃ z, x.div? y = some z ∧ z.size ≤ z'.size := by
  have hquotient : ((x.ratio.1 * y.ratio.2 : Nat) : ℚ) / (x.ratio.2 * y.ratio.1 : Nat) =
      x.size / y.size := by
    rw [Nat.cast_mul, Nat.cast_mul, ← div_mul_div_comm, ratio_div, ← ratio_div y,
      div_eq_mul_inv x.size, inv_div]
  exact exists_nearest_of_le (x.negative != y.negative)
    (Nat.mul_pos x.ratio_pos (ratio_pos_of_size hy)) hd (by rw [hquotient]; exact h) hz

end Binary64
end LedgerRules
