/-
# Decimals

Amounts and the numbers of rule conditions are decimals `coeff / 10^scale` with
a coefficient below `2^96` in size and at most 28 places.  Two decimals are
compared by value, so `2` and `2.00` are equal; their texts keep the places they
were written with.

A text is read digit by digit.  A digit that finds no room behind the point (28
places are full, or the coefficient would reach `2^96`) rounds the digits before
it, half away from zero, and ends the reading; one before the point makes the
text too large.

Embeds `Decimal`, the number type of amounts and of `NumericPredicate` (section
3 of the specification, Data Model): its reading from a plain and from a
scientific text, its order, its rounding to whole numbers and to a double, and
its text.
-/

import LedgerRules.Number.Shortest
import LedgerRules.Number.Whole

namespace LedgerRules

/-- The most places behind the point of a decimal. -/
abbrev Decimal.maxScale : Nat := 28

/-- The first size that no coefficient of a decimal has, `2^96`. -/
abbrev Decimal.coeffLimit : Nat := 79228162514264337593543950336

/-- The number `coeff / 10^scale`. -/
structure Decimal where
  coeff : Int
  scale : Nat
  scale_le : scale ≤ Decimal.maxScale
  coeff_lt : coeff.natAbs < Decimal.coeffLimit
  deriving DecidableEq, Repr

namespace Decimal

/-- The decimal of a coefficient and a scale, if both are in range. -/
def ofParts? (coeff : Int) (scale : Nat) : Option Decimal :=
  if h : scale ≤ maxScale ∧ coeff.natAbs < coeffLimit then some ⟨coeff, scale, h.1, h.2⟩ else none

/-- The decimal `0`. -/
def zero : Decimal := ⟨0, 0, by decide, by decide⟩

instance : Inhabited Decimal := ⟨zero⟩

/-- A whole number as a decimal, if it is in range. -/
def ofInt? (n : Int) : Option Decimal := ofParts? n 0

/-- A code of 32 bits as a decimal. -/
def ofInt32 (n : Int32) : Decimal :=
  (ofInt? n.toInt).getD zero

/-- The size of a decimal. -/
def abs (d : Decimal) : Decimal :=
  ⟨d.coeff.natAbs, d.scale, d.scale_le, (Int.natAbs_natCast _).symm ▸ d.coeff_lt⟩

/-- Whether two decimals have the same value. -/
def sameValue (a b : Decimal) : Bool :=
  a.coeff * tenPow b.scale == b.coeff * tenPow a.scale

/-- Whether the first decimal is the smaller one. -/
def less (a b : Decimal) : Bool :=
  a.coeff * tenPow b.scale < b.coeff * tenPow a.scale

/-- Whether the first decimal is not the greater one. -/
def atMost (a b : Decimal) : Bool := !b.less a

/-- Whether a decimal is below zero. -/
def isNegative (d : Decimal) : Bool := d.coeff < 0

/-- The whole number that a decimal without a fraction stands for. -/
def whole? (d : Decimal) : Option Int :=
  if d.coeff % tenPow d.scale = 0 then some (d.coeff / tenPow d.scale) else none

/-- The double nearest to a decimal. -/
def toDouble (d : Decimal) : Binary64 :=
  (Binary64.nearest (d.coeff < 0) d.coeff.natAbs (tenPow d.scale)).getD (Binary64.zero false)

/-! ### Text -/

/-- The digits of a coefficient with the point `scale` places from the right, at
least one digit before it. -/
def writeUnsigned (coeff scale : Nat) : List Char :=
  let digits := DigitString.digitsOf coeff
  let digits := List.replicate (scale + 1 - digits.length) '0' ++ digits
  let whole := digits.length - scale
  if scale = 0 then digits else digits.take whole ++ '.' :: digits.drop whole

/-- The text of a decimal, with all its places. -/
def toText (d : Decimal) : String :=
  let body := writeUnsigned d.coeff.natAbs d.scale
  String.ofList (if d.coeff < 0 then '-' :: body else body)

/-- What has been read of a decimal: the digits as a number, the places behind
the point, whether the point was passed and whether there was a digit at all. -/
structure Reading where
  coeff : Nat
  scale : Nat
  point : Bool
  started : Bool

/-- Ends a reading at a digit that finds no room. -/
def Reading.round (r : Reading) (d : Nat) : Option Reading :=
  if d < 5 then some r
  else if r.coeff + 1 < coeffLimit then some { r with coeff := r.coeff + 1 }
  else if r.scale = 0 then none
  else some { r with coeff := (r.coeff + 5) / 10, scale := r.scale - 1 }

/-- Reads digits, at most one point, and underscores behind a digit. -/
def readDigits (r : Reading) : List Char → Option Reading
  | [] => if r.started then some r else none
  | c :: rest =>
    if r.point && r.started && maxScale ≤ r.scale then
      match Whole.digit? c with
      | some d => r.round d
      | none => if c = '_' || c = '.' then r.round 0 else none
    else match Whole.digit? c with
      | some d =>
        if r.coeff * 10 + d < coeffLimit then
          readDigits ⟨r.coeff * 10 + d, if r.point then r.scale + 1 else 0, r.point, true⟩ rest
        else if r.point then r.round d else none
      | none =>
        if c = '.' && !r.point then readDigits { r with point := true } rest
        else if c = '_' && r.started then readDigits r rest
        else none

/-- The decimal a text stands for: an optional sign, digits and a point. -/
def parse? (s : String) : Option Decimal :=
  let (negative, cs) := match s.toList with
    | '-' :: cs => (true, cs)
    | '+' :: cs => (false, cs)
    | cs => (false, cs)
  match readDigits ⟨0, 0, false, false⟩ cs with
  | some r => ofParts? (if negative then -(r.coeff : Int) else r.coeff) r.scale
  | none => none

/-- The decimal that a text with an exponent stands for: a decimal, `e` or `E`,
and a whole number of at most 28 places to move the point. -/
def parseScientific? (s : String) : Option Decimal := do
  let cs := s.toList
  let isMark (c : Char) : Bool := c == 'e' || c == 'E'
  let base ← parse? (String.ofList (cs.takeWhile (!isMark ·)))
  match cs.dropWhile (!isMark ·) with
  | _ :: '-' :: exponent =>
    let n ← Whole.ofDigits? (match exponent with | '+' :: ds => ds | ds => ds)
    if n ≤ maxScale then ofParts? base.coeff (base.scale + n) else none
  | _ :: exponent =>
    let n ← Whole.ofDigits? (match exponent with | '+' :: ds => ds | ds => ds)
    if n ≤ base.scale then ofParts? base.coeff (base.scale - n)
    else if n ≤ maxScale then ofParts? (base.coeff * tenPow (n - base.scale)) 0
    else none
  | [] => none

/-! ### Doubles and cents -/

/-- The decimal with the digits a double is written with, if they fit. -/
def ofDouble? (x : Binary64) : Option Decimal :=
  let d := x.shortest
  let signed (n : Nat) : Int := if x.negative then -(n : Int) else n
  if 0 ≤ d.place then
    if d.place ≤ 28 then ofParts? (signed (d.digits * tenPow d.place.toNat)) 0 else none
  else ofParts? (signed d.digits) (-d.place).toNat

/-- The digits a double is written with, without an exponent. -/
def positionalText (x : Binary64) : String :=
  let d := x.shortest
  let body :=
    if 0 ≤ d.place then DigitString.digitsOf d.digits ++ List.replicate d.place.toNat '0'
    else writeUnsigned d.digits (-d.place).toNat
  String.ofList (if x.negative then '-' :: body else body)

/-- A decimal in hundredths, a half rounded away from zero. -/
def toCents (d : Decimal) : Int :=
  let n := d.coeff.natAbs * 100
  let q := (2 * n + tenPow d.scale) / (2 * tenPow d.scale)
  if d.coeff < 0 then -(q : Int) else q

end Decimal
end LedgerRules
