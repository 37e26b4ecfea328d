/-
# Double-precision numbers as exact data

A finite double is a sign and a magnitude `significand · 2^exponent`.  Every
operation is the exact operation on rationals followed by one rounding, to the
nearest double and of two equally near ones to the even one:

| magnitude | exponent | significand |
| --- | --- | --- |
| below `2^-1022` | `-1074` | below `2^52` |
| from `2^-1022` | `-1074` to `971` | `2^52` to `2^53 - 1` |

A rational of `2^1024 - 2^970` or more has no nearest double.

Embeds the type `f64` as far as `json_to_decimal`, `decimal_to_json` and the
reading of numbers in JSON compute with it.
-/

import LedgerRules.Number.Power

namespace LedgerRules

/-- A finite double `± significand · 2^exponent`. -/
structure Binary64 where
  negative : Bool
  significand : Nat
  exponent : Int
  deriving DecidableEq, Repr

namespace Binary64

/-- The least exponent of a double. -/
def minExponent : Int := -1074

/-- The greatest exponent of a double. -/
def maxExponent : Int := 971

/-- The zero of a sign. -/
def zero (negative : Bool) : Binary64 := ⟨negative, 0, minExponent⟩

/-- `num / den` rounded to a natural number, a half going to the even neighbour. -/
def roundDiv (num den : Nat) : Nat :=
  let q := num / den
  let r := num % den
  if 2 * r < den then q else if den < 2 * r then q + 1 else q + q % 2

/-- `num / den · 2^(-e)` as a numerator and a denominator. -/
def scaled (num den : Nat) (e : Int) : Nat × Nat :=
  if e ≤ 0 then (num * twoPow (-e).toNat, den) else (num, den * twoPow e.toNat)

/-- An exponent at which `num / den` has at most 53 bits before the point, and
exactly 53 unless it is the least exponent. -/
def exponentFor (num den : Nat) : Int :=
  let guess : Int := (Nat.log2 num : Int) - Nat.log2 den - 53
  let (n, d) := scaled num den guess
  max minExponent (if n < twoPow 53 * d then guess else guess + 1)

/-- The double nearest to `± num / den`, none when that is too large. -/
def nearest (negative : Bool) (num den : Nat) : Option Binary64 :=
  if num = 0 then some (zero negative) else
    let e := exponentFor num den
    let (n, d) := scaled num den e
    let q := roundDiv n d
    let (q, e) := if q = twoPow 53 then (twoPow 52, e + 1) else (q, e)
    if maxExponent < e then none else some ⟨negative, q, e⟩

/-- The magnitude of a double as a numerator and a denominator. -/
def ratio (x : Binary64) : Nat × Nat :=
  if x.exponent ≤ 0 then (x.significand, twoPow (-x.exponent).toNat)
  else (x.significand * twoPow x.exponent.toNat, 1)

/-- Whether a double is `0` or `-0`. -/
def isZero (x : Binary64) : Bool := x.significand == 0

/-- The double nearest to a natural number. -/
def ofNat? (n : Nat) : Option Binary64 := nearest false n 1

/-- The rounded product. -/
def mul? (x y : Binary64) : Option Binary64 :=
  nearest (x.negative != y.negative)
    (x.ratio.1 * y.ratio.1) (x.ratio.2 * y.ratio.2)

/-- The rounded quotient by a double other than zero. -/
def div? (x y : Binary64) : Option Binary64 :=
  nearest (x.negative != y.negative)
    (x.ratio.1 * y.ratio.2) (x.ratio.2 * y.ratio.1)

/-- The double of the other sign. -/
def neg (x : Binary64) : Binary64 := { x with negative := !x.negative }

end Binary64
end LedgerRules
