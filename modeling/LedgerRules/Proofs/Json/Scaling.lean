/-
# A significand and a power of ten

A reader takes a double from up to 64 bits of digits and a power of ten, each
rounded to a double, and rounds their product or quotient.  What comes of it is
a double in range (`inRange_of_scaleDouble`).  There may be none, if the product
is too large; but rounding keeps the order, so if the digits and the power stand
for no more than the middle between the two greatest doubles, there is one
(`exists_scaleDouble`).  For the greatest significands that stay below it, that
is computed power by power.
-/

import LedgerRules.Json.Reader
import LedgerRules.Proofs.Number.Rounding

namespace LedgerRules
namespace Json

open Binary64

/-! ### Powers of ten -/

/-- The powers of ten that a reader scales by have a nearest double, which is
the one in its table. -/
theorem exists_nearest_tenPow {n : Nat} (hn : n ≤ 308) :
    nearest false (tenPow n) 1 = some (powerOfTen n) := by
  have hgreatest : (nearest false (tenPow 308) 1).isSome = true := by decide +kernel
  obtain ⟨y, hy⟩ := Option.isSome_iff_exists.1 hgreatest
  have hle := tenPow_le_tenPow hn
  obtain ⟨x, hx, -⟩ := exists_nearest_of_le false Nat.one_pos Nat.one_pos
    (div_le_div_of_nonneg_right (by exact_mod_cast hle) (by simp)) hy
  unfold powerOfTen ofNat?
  rw [hx]
  rfl

/-- A greater power is rounded to a double that is not smaller. -/
theorem size_powerOfTen_mono {m n : Nat} (h : m ≤ n) (hn : n ≤ 308) :
    (powerOfTen m).size ≤ (powerOfTen n).size := by
  have hle := tenPow_le_tenPow h
  obtain ⟨x, hx, hsize⟩ := exists_nearest_of_le false Nat.one_pos Nat.one_pos
    (div_le_div_of_nonneg_right (by exact_mod_cast hle) (by simp)) (exists_nearest_tenPow hn)
  rw [exists_nearest_tenPow (h.trans hn)] at hx
  exact Option.some.inj hx ▸ hsize

/-- No power of ten is rounded to less than one, so scaling up makes nothing
smaller. -/
theorem one_le_size_powerOfTen {n : Nat} (hn : n ≤ 308) : 1 ≤ (powerOfTen n).size := by
  have hone : powerOfTen 0 = ⟨false, 2 ^ 52, -52⟩ := by decide +kernel
  have hsize : (powerOfTen 0).size = 1 := by
    rw [hone]
    norm_num [size]
  exact hsize ▸ size_powerOfTen_mono (Nat.zero_le n) hn

/-! ### What is read is in range -/

variable {x y z : Binary64}

/-- A double that is scaled down stays in range. -/
theorem inRange_of_shiftDown {fuel places : Nat} (hx : x.InRange)
    (h : shiftDown fuel x places = some z) : z.InRange := by
  induction fuel generalizing x places with
  | zero =>
    cases h
    exact inRange_zero false
  | succ fuel ih =>
    have hpower : ∀ {n : Nat}, n ≤ 308 → 0 < (powerOfTen n).size := fun hn =>
      one_pos.trans_le (one_le_size_powerOfTen hn)
    rw [shiftDown] at h
    split at h
    · rename_i hplaces
      exact inRange_div? (hpower hplaces) h
    · split at h
      · cases h
        exact hx
      · obtain ⟨y, hy, h⟩ := Option.bind_eq_some_iff.1 h
        exact ih (inRange_div? (hpower (Nat.le_refl 308)) hy) h

/-- A double times a power of ten.  Powers that are too great for the table are
divided by in steps, and multiplied by only if there is nothing to multiply. -/
def scale? (x : Binary64) (exponent : Int) : Option Binary64 :=
  if 0 ≤ exponent then
    if exponent ≤ 308 then x.mul? (powerOfTen exponent.toNat)
    else if x.isZero then some x else none
  else shiftDown 5 x exponent.natAbs

/-- A double is read as its digits times a power of ten, and then comes the
sign. -/
theorem scaleDouble_eq (negative : Bool) (significand : Nat) (exponent : Int) :
    scaleDouble negative significand exponent = (ofNat? significand).bind fun x =>
      (scale? x exponent).map fun y => if negative then y.neg else y := by
  unfold scaleDouble scale?
  cases ofNat? significand with
  | none => rfl
  | some x =>
    simp only [Option.bind_eq_bind, Option.bind_some, Option.map_eq_bind]
    split_ifs <;> rfl

/-- **A double that is read is in range.** Every step of the scaling is one that
rounds to a double. -/
theorem inRange_of_scaleDouble {negative : Bool} {significand : Nat} {exponent : Int}
    (h : scaleDouble negative significand exponent = some z) : z.InRange := by
  rw [scaleDouble_eq] at h
  obtain ⟨x, hx, h⟩ := Option.bind_eq_some_iff.1 h
  obtain ⟨y, hy, rfl⟩ := Option.map_eq_some_iff.1 h
  have hxrange : x.InRange := (nearest_eq_some Nat.one_pos hx).1
  have hyrange : y.InRange := by
    unfold scale? at hy
    split_ifs at hy with hup hpower hzero
    · exact inRange_mul? hy
    · exact Option.some.inj hy ▸ hxrange
    · exact inRange_of_shiftDown hxrange hy
  cases negative with
  | false => exact hyrange
  | true => exact hyrange.neg

/-! ### What can be read -/

/-- A double that 64 bits give can always be scaled down: it only gets smaller. -/
theorem exists_shiftDown (fuel places : Nat) (hx : x.size ≤ 2 ^ 64) :
    ∃ z, shiftDown fuel x places = some z := by
  -- A quotient by a power of ten is no greater than what is divided, so it is rounded to no more.
  have hword : nearest false (2 ^ 64) 1 = some ⟨false, 2 ^ 52, 12⟩ := by decide +kernel
  have hdiv : ∀ {n : Nat} {x : Binary64}, n ≤ 308 → x.size ≤ 2 ^ 64 →
      ∃ z, x.div? (powerOfTen n) = some z ∧ z.size ≤ 2 ^ 64 := by
    intro n x hn hx
    have hone := one_le_size_powerOfTen hn
    obtain ⟨z, hz, hsize⟩ := exists_div?_of_le (one_pos.trans_le hone) Nat.one_pos
      (by push_cast; rw [div_one]; exact (div_le_self x.size_nonneg hone).trans hx) hword
    refine ⟨z, hz, hsize.trans_eq ?_⟩
    norm_num [size]
  induction fuel generalizing x places with
  | zero => exact ⟨_, rfl⟩
  | succ fuel ih =>
    rw [shiftDown]
    split_ifs with hplaces hzero
    · obtain ⟨z, hz, -⟩ := hdiv hplaces hx
      exact ⟨z, hz⟩
    · exact ⟨x, rfl⟩
    · obtain ⟨y, hy, hsize⟩ := hdiv (Nat.le_refl 308) hx
      rw [hy, Option.bind_some]
      exact ih _ hsize

/-- The greatest digits that stay below the middle with a great power can be
read. -/
theorem exists_mul?_greatest {n : Nat} (h : 288 ≤ n) (hn : n ≤ 308) : ∃ x z,
    ofNat? (min maxUnsigned (greatestMiddle / tenPow n)) = some x ∧
      x.mul? (powerOfTen n) = some z := by
  have hall : ∀ k : Fin 21, ((ofNat? (min maxUnsigned (greatestMiddle / tenPow (288 + k)))).bind
      (·.mul? (powerOfTen (288 + k)))).isSome = true := by decide +kernel
  obtain ⟨z, hz⟩ := Option.isSome_iff_exists.1 (hall ⟨n - 288, by omega⟩)
  obtain ⟨x, hx, hz⟩ := Option.bind_eq_some_iff.1 hz
  rw [show 288 + (n - 288) = n by omega] at hx hz
  exact ⟨x, z, hx, hz⟩

/-- What is no more than the middle between the two greatest doubles is scaled
to a double. -/
theorem exists_scale?_up {significand n : Nat} (hs : significand ≤ maxUnsigned) (hn : n ≤ 308)
    (h : significand * tenPow n ≤ greatestMiddle) : ∃ x z,
    ofNat? significand = some x ∧ x.mul? (powerOfTen n) = some z := by
  -- Below `10^288` all significands are small enough, so the power may be taken as that.
  obtain ⟨x', z', hx', hz'⟩ := exists_mul?_greatest (le_max_right n 288) (max_le hn (by decide))
  have hroom : significand ≤ greatestMiddle / tenPow (max n 288) := by
    rcases le_total n 288 with hsmall | hlarge
    · rw [max_eq_right hsmall]
      exact hs.trans (by decide +kernel)
    · rw [max_eq_left hlarge]
      exact (Nat.le_div_iff_mul_le (tenPow_pos n)).2 h
  obtain ⟨x, hx, hsize⟩ := exists_nearest_of_le false Nat.one_pos Nat.one_pos
    (div_le_div_of_nonneg_right (by exact_mod_cast le_min hs hroom) (by simp)) hx'
  obtain ⟨z, hz⟩ := exists_mul?_of_le (mul_le_mul hsize
    (size_powerOfTen_mono (le_max_left n 288) (max_le hn (by decide))) (powerOfTen n).size_nonneg
    x'.size_nonneg) hz'
  exact ⟨x, z, hx, hz⟩

/-- **There is a double for digits and a power** that stand for no more than the
middle between the two greatest doubles. -/
theorem exists_scaleDouble (negative : Bool) {significand : Nat} {exponent : Int}
    (hs : significand ≤ maxUnsigned)
    (h : (significand : ℚ) * 10 ^ exponent < greatestMiddle + 1) :
    ∃ z, scaleDouble negative significand exponent = some z := by
  have hparts : ∃ x y, ofNat? significand = some x ∧ scale? x exponent = some y := by
    unfold scale?
    rcases Int.lt_or_le exponent 0 with hdown | hup
    · have hword : nearest false (2 ^ 64) 1 = some ⟨false, 2 ^ 52, 12⟩ := by decide +kernel
      have hle : significand ≤ 2 ^ 64 := hs.trans (by decide)
      obtain ⟨x, hx, hsize⟩ := exists_nearest_of_le false Nat.one_pos Nat.one_pos
        (div_le_div_of_nonneg_right (by exact_mod_cast hle) (by simp)) hword
      obtain ⟨y, hy⟩ := exists_shiftDown 5 exponent.natAbs
        (hsize.trans_eq (by norm_num [size]))
      refine ⟨x, y, hx, ?_⟩
      rw [if_neg (Int.not_le.2 hdown), hy]
    · obtain ⟨n, rfl⟩ := Int.eq_ofNat_of_zero_le hup
      rw [zpow_natCast, ← cast_tenPow] at h
      have hlt : significand * tenPow n < greatestMiddle + 1 := by exact_mod_cast h
      have hle : significand * tenPow n ≤ greatestMiddle := Nat.le_of_lt_succ hlt
      rcases Nat.lt_or_ge 308 n with hlarge | hn
      · -- So great a power leaves no digits but zero.
        have hzero : significand = 0 := by
          by_contra hne
          have hten : greatestMiddle < tenPow 309 := by decide +kernel
          have hpower : tenPow n ≤ significand * tenPow n :=
            Nat.le_mul_of_pos_left _ (Nat.pos_of_ne_zero hne)
          exact absurd (hten.trans_le ((tenPow_le_tenPow hlarge).trans (hpower.trans hle)))
            (lt_irrefl _)
        refine ⟨zero false, zero false, ?_, ?_⟩
        · rw [hzero]
          rfl
        · rw [if_pos hup, if_neg (by omega)]
          rfl
      · obtain ⟨x, y, hx, hy⟩ := exists_scale?_up hs hn hle
        refine ⟨x, y, hx, ?_⟩
        rw [if_pos hup, if_pos (by omega)]
        exact hy
  obtain ⟨x, y, hx, hy⟩ := hparts
  refine ⟨if negative then y.neg else y, ?_⟩
  rw [scaleDouble_eq, hx, Option.bind_some, hy]
  rfl

end Json
end LedgerRules
