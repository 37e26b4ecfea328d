/-
# The shortest text of a double

A double is written with the fewest digits that read back to it, and of texts
with equally few digits as the one nearest to it.  The digits `d₁…dₙ` stand for
`d₁…dₙ · 10^place`; the search tries one digit, two digits, … and tests the two
decimals of that length on either side of the double.

`ExponentStyle` holds the decisions of a written form: where positional writing
ends, and how an exponent is marked.

Embeds the text of a double in the `Number` of `serde_json`, which is what JSON is
written with, what `text_value` takes for a number given to a text field, and what
`json_to_decimal` reads a decimal from.
-/

import LedgerRules.Number.Binary64

namespace LedgerRules

/-- The decimal `digits · 10^place`. -/
structure DigitString where
  digits : Nat
  place : Int
  deriving DecidableEq, Repr

namespace DigitString

/-- The number as a numerator and a denominator. -/
def ratio (d : DigitString) : Nat × Nat :=
  if d.place ≤ 0 then (d.digits, tenPow (-d.place).toNat) else (d.digits * tenPow d.place.toNat, 1)

/-- The double nearest to the number. -/
def nearest (negative : Bool) (d : DigitString) : Option Binary64 :=
  Binary64.nearest negative d.ratio.1 d.ratio.2

/-- The decimal digits of a natural number. -/
def digitsOf (n : Nat) : List Char := Nat.toDigits 10 n

/-- Drops up to `fuel` trailing zeros. -/
def trimZeros : Nat → DigitString → DigitString
  | 0, d => d
  | fuel + 1, d =>
    if d.digits ≠ 0 ∧ d.digits % 10 = 0 then trimZeros fuel ⟨d.digits / 10, d.place + 1⟩ else d

end DigitString

namespace Binary64

/-- The power of ten `p` with `10^p ≤ x < 10^(p+1)`, for a positive `x`. -/
def decimalOrder (num den : Nat) : Int :=
  let reaches (p : Int) : Bool :=
    if p ≤ 0 then den ≤ num * tenPow (-p).toNat else den * tenPow p.toNat ≤ num
  let guess : Int := ((Nat.log2 num : Int) - Nat.log2 den) * 30103 / 100000
  if reaches (guess + 1) then guess + 1
  else if reaches guess then guess
  else if reaches (guess - 1) then guess - 1 else guess - 2

/-- The two decimals with places `place` around `num / den`, the nearer one
first, and the even one first where both are equally near. -/
def neighbours (num den : Nat) (place : Int) : List DigitString :=
  let (n, d) := if place ≤ 0 then (num * tenPow (-place).toNat, den)
    else (num, den * tenPow place.toNat)
  let q := n / d
  let r := n % d
  if 2 * r < d ∨ (2 * r = d ∧ q % 2 = 0) then [⟨q, place⟩, ⟨q + 1, place⟩]
  else [⟨q + 1, place⟩, ⟨q, place⟩]

/-- The first decimal of `n`, `n + 1`, … digits, `fuel` lengths in all, that
reads back to `x`; `order` is the decimal order of `x`. -/
def searchDigits (x : Binary64) (order : Int) : Nat → Nat → Option DigitString
  | 0, _ => none
  | fuel + 1, n =>
    let found := (neighbours x.ratio.1 x.ratio.2 (order - (n - 1 : Nat))).find? fun d =>
      d.digits ≠ 0 && d.nearest x.negative == some x
    match found with
    | some d => some d
    | none => searchDigits x order fuel (n + 1)

/-- The exact decimal expansion of a double. -/
def exactDigits (x : Binary64) : DigitString :=
  if x.exponent ≤ 0 then ⟨x.significand * Nat.pow 5 (-x.exponent).toNat, x.exponent⟩
  else ⟨x.significand * twoPow x.exponent.toNat, 0⟩

/-- The digits a double is written with. -/
def shortest (x : Binary64) : DigitString :=
  if x.significand = 0 then ⟨0, 0⟩ else
    let d := (searchDigits x (decimalOrder x.ratio.1 x.ratio.2) 17 1).getD x.exactDigits
    d.trimZeros 1100

end Binary64

/-- How a number is written: positional where the first digit stands at a
decimal order from `low` up to and without `high`, in exponent form elsewhere. -/
structure ExponentStyle where
  low : Int
  high : Int
  plus : String
  deriving DecidableEq, Repr

namespace ExponentStyle

/-- Digits with a point after the first `whole` of them, zeros filled in on
either side; a number without a fraction keeps the fraction `0`. -/
def positional (digits : List Char) (whole : Int) : List Char :=
  if whole ≤ 0 then
    ['0', '.'] ++ List.replicate (-whole).toNat '0' ++ digits
  else if digits.length ≤ whole.toNat then
    digits ++ List.replicate (whole.toNat - digits.length) '0' ++ ['.', '0']
  else digits.take whole.toNat ++ ['.'] ++ digits.drop whole.toNat

/-- Digits with a point after the first, and the decimal order as an exponent. -/
def scientific (style : ExponentStyle) (digits : List Char) (order : Int) : List Char :=
  let mantissa := match digits with
    | [] => ['0']
    | [d] => [d]
    | d :: rest => d :: '.' :: rest
  mantissa ++ ['e'] ++
    (if order < 0 then ['-'] else style.plus.toList) ++ DigitString.digitsOf order.natAbs

/-- The text of a double. -/
def write (style : ExponentStyle) (x : Binary64) : String :=
  let d := x.shortest
  let digits := DigitString.digitsOf d.digits
  let order : Int := d.place + digits.length - 1
  let body :=
    if d.digits = 0 ∨ (style.low ≤ order ∧ order < style.high) then
      positional digits (order + 1)
    else style.scientific digits order
  String.ofList (if x.negative then '-' :: body else body)

end ExponentStyle
end LedgerRules
