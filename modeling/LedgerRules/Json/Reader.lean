/-
# Reading JSON

The grammar of RFC 8259 and nothing beyond it: one value, blanks around it, no text
behind it.  Objects and arrays nest up to 127 deep.  Control characters stand in a
text only as escapes, and an escaped surrogate needs its partner.

A number without point or exponent that fits 64 bits is a whole number; `-0` and
every other number is a double.  A double is computed from at most 64 bits of
leading digits, taken as a double, and one power of ten as a double, which is
multiplied or divided with one rounding; it can therefore differ from the nearest
double where the digits do not fit 53 bits or the power of ten passes `10^22`.  A
number too large for a double is an error, one too small is zero.

Embeds `from_str` of `serde_json` without the feature `float_roundtrip`, as
`validate_rule_conditions` and `read_settings` call it.
-/

import LedgerRules.Json.Value
import LedgerRules.Text.Hex

namespace LedgerRules
namespace Json

/-! ### Numbers -/

/-- The greatest whole number of 64 bits without sign. -/
def maxUnsigned : Nat := 18446744073709551615

/-- The leading digits of a number as far as they fit 64 bits, and whether the
number of digits ran past that. -/
structure Significand where
  value : Nat
  full : Bool

/-- Takes one more digit if it still fits. -/
def Significand.push (s : Significand) (d : Nat) : Significand :=
  if s.full || maxUnsigned < s.value * 10 + d then { s with full := true }
  else { s with value := s.value * 10 + d }

/-- Reads the digits before the point: the significand, and how many digits
found no room in it. -/
def wholeDigits (ds : List Nat) : Significand × Nat :=
  ds.foldl (fun (s, dropped) d =>
    let s' := s.push d
    (s', if s'.full then dropped + 1 else dropped)) (⟨0, false⟩, 0)

/-- Adds the digits behind the point: the significand, and how many of them
found room in it. -/
def fractionDigits (start : Nat) (ds : List Nat) : Nat × Nat :=
  let (s, taken) := ds.foldl (fun (s, taken) d =>
    let s' := Significand.push s d
    (s', if s'.full then taken else taken + 1)) ((⟨start, false⟩ : Significand), 0)
  (s.value, taken)

/-- The double `10^n` for an `n` up to 308. -/
def powerOfTen (n : Nat) : Binary64 :=
  (Binary64.ofNat? (tenPow n)).getD (Binary64.zero false)

/-- Divides by `10^308` while more than that many places are left. -/
def shiftDown : Nat → Binary64 → Nat → Option Binary64
  | 0, _, _ => some (Binary64.zero false)
  | fuel + 1, x, places =>
    if places ≤ 308 then x.div? (powerOfTen places)
    else if x.isZero then some x
    else (x.div? (powerOfTen 308)).bind fun y => shiftDown fuel y (places - 308)

/-- The double `± significand · 10^exponent`, rounded as digits, as a power and
as their product; none if it is too large. -/
def scaleDouble (negative : Bool) (significand : Nat) (exponent : Int) : Option Binary64 := do
  let x ← Binary64.ofNat? significand
  let y ←
    if 0 ≤ exponent then
      if exponent ≤ 308 then x.mul? (powerOfTen exponent.toNat)
      else if x.isZero then some x else none
    else shiftDown 5 x exponent.natAbs
  return if negative then y.neg else y

/-- A digit as a number. -/
def digitValue (c : Char) : Nat := c.toNat - '0'.toNat

/-- Whether a character is a decimal digit. -/
def isDigit (c : Char) : Bool := '0' ≤ c && c ≤ '9'

/-- The digits at the start of a text, and what follows them. -/
def spanDigits (cs : List Char) : List Nat × List Char :=
  ((cs.takeWhile isDigit).map digitValue, cs.dropWhile isDigit)

/-- A list of digits as a number. -/
def digitsToNat (ds : List Nat) : Nat := ds.foldl (fun n d => n * 10 + d) 0

/-- The exponent behind `e`: an optional sign and digits. -/
def readExponent? (cs : List Char) : Option (Int × List Char) :=
  let (negative, cs) := match cs with
    | '+' :: rest => (false, rest)
    | '-' :: rest => (true, rest)
    | _ => (false, cs)
  let (ds, rest) := spanDigits cs
  if ds.isEmpty then none
  else some (if negative then -(digitsToNat ds : Int) else digitsToNat ds, rest)

/-- The number made of a sign, digits before the point, digits behind it if
there is one, and an exponent if there is one. -/
def buildNumber (negative : Bool) (whole : List Nat) (fraction : Option (List Nat))
    (exponent : Option Int) : Option Number :=
  let (s, dropped) := wholeDigits whole
  match fraction, exponent with
  | none, none =>
    if s.full then (scaleDouble negative s.value dropped).map .double
    else if !negative then some (.whole s.value)
    else if s.value = 0 || 9223372036854775808 < s.value then
      (Binary64.ofNat? s.value).map fun x => .double x.neg
    else some (.whole (-(s.value : Int)))
  | _, _ =>
    let (value, taken) := fractionDigits s.value (fraction.getD [])
    (scaleDouble negative value ((dropped : Int) - taken + exponent.getD 0)).map .double

/-- Reads a number at the start of a text. -/
def readNumber? (cs : List Char) : Option (Number × List Char) := do
  let (negative, cs) := match cs with
    | '-' :: rest => (true, rest)
    | _ => (false, cs)
  let (whole, rest) := spanDigits cs
  if whole.isEmpty || (whole.head? == some 0 && whole.length != 1) then none
  let (fraction, rest) ← match rest with
    | '.' :: rest =>
      let (ds, rest) := spanDigits rest
      if ds.isEmpty then none else some (some ds, rest)
    | _ => some (none, rest)
  let (exponent, rest) ← match rest with
    | c :: after =>
      if c = 'e' || c = 'E' then (readExponent? after).map fun (n, rest) => (some n, rest)
      else some (none, rest)
    | [] => some (none, rest)
  let n ← buildNumber negative whole fraction exponent
  return (n, rest)

/-! ### Texts -/

/-- Four hexadecimal digits as a number. -/
def readHex4? (cs : List Char) : Option (Nat × List Char) :=
  if (cs.take 4).length = 4 then (Text.hexNumber? (cs.take 4)).map (·, cs.drop 4) else none

/-- The character behind `\u`, whose second half stands in a second escape where
the first is a surrogate. -/
def readUnicodeEscape? (cs : List Char) : Option (Char × List Char) := do
  let (n, rest) ← readHex4? cs
  if 0xDC00 ≤ n && n ≤ 0xDFFF then none
  else if 0xD800 ≤ n && n ≤ 0xDBFF then
    match rest with
    | '\\' :: 'u' :: rest =>
      let (m, rest) ← readHex4? rest
      if 0xDC00 ≤ m && m ≤ 0xDFFF then
        return (Char.ofNat (0x10000 + (n - 0xD800) * 0x400 + (m - 0xDC00)), rest)
      else none
    | _ => none
  else return (Char.ofNat n, rest)

/-- The character of a one-letter escape. -/
def simpleEscape? (c : Char) : Option Char :=
  if c = '"' || c = '\\' || c = '/' then some c
  else if c = 'b' then some (Char.ofNat 8)
  else if c = 'f' then some (Char.ofNat 12)
  else if c = 'n' then some '\n'
  else if c = 'r' then some '\r'
  else if c = 't' then some '\t'
  else none

/-- Reads a text up to its closing quote; `done` holds its characters so far,
the last one first. -/
def readText? : Nat → List Char → List Char → Option (String × List Char)
  | 0, _, _ => none
  | _ + 1, _, [] => none
  | fuel + 1, done, c :: rest =>
    if c = '"' then some (String.ofList done.reverse, rest)
    else if c = '\\' then
      match rest with
      | 'u' :: rest =>
        match readUnicodeEscape? rest with
        | some (c, rest) => readText? fuel (c :: done) rest
        | none => none
      | c :: rest =>
        match simpleEscape? c with
        | some c => readText? fuel (c :: done) rest
        | none => none
      | [] => none
    else if c.toNat < 0x20 then none
    else readText? fuel (c :: done) rest

/-! ### Values -/

/-- The deepest nesting of objects and arrays. -/
def maxDepth : Nat := 127

/-- Whether a character may stand between tokens. -/
def isSpace (c : Char) : Bool := c == ' ' || c == '\n' || c == '\t' || c == '\r'

/-- A text without the blanks at its start. -/
def skipSpace (cs : List Char) : List Char := cs.dropWhile isSpace

/-- What follows `word` at the start of a text. -/
def expect? (word : List Char) (cs : List Char) : Option (List Char) :=
  if word.isPrefixOf cs then some (cs.drop word.length) else none

mutual

/-- Reads a value at the start of a text, with `depth` levels of nesting left;
`fuel` bounds the number of steps. -/
def readValue? : Nat → Nat → List Char → Option (Json × List Char)
  | 0, _, _ => none
  | fuel + 1, depth, cs =>
    match skipSpace cs with
    | [] => none
    | c :: rest =>
      if c = 'n' then (expect? "ull".toList rest).map (null, ·)
      else if c = 't' then (expect? "rue".toList rest).map (bool true, ·)
      else if c = 'f' then (expect? "alse".toList rest).map (bool false, ·)
      else if c = '"' then (readText? (fuel + 1) [] rest).map fun (s, rest) => (str s, rest)
      else if c = '[' then
        match depth with
        | 0 => none
        | depth + 1 =>
          match skipSpace rest with
          | ']' :: rest => some (arr [], rest)
          | rest => (readItems? fuel depth [] rest).map fun (items, rest) => (arr items, rest)
      else if c = '\x7b' then
        match depth with
        | 0 => none
        | depth + 1 =>
          match skipSpace rest with
          | '\x7d' :: rest => some (obj [], rest)
          | rest => (readMembers? fuel depth [] rest).map fun (ms, rest) => (obj ms, rest)
      else (readNumber? (c :: rest)).map fun (n, rest) => (num n, rest)

/-- Reads the items of an array up to its closing bracket; `done` holds the
items so far, the last one first. -/
def readItems? : Nat → Nat → List Json → List Char → Option (List Json × List Char)
  | 0, _, _, _ => none
  | fuel + 1, depth, done, cs =>
    match readValue? fuel depth cs with
    | none => none
    | some (j, rest) =>
      match skipSpace rest with
      | ',' :: rest => readItems? fuel depth (j :: done) rest
      | ']' :: rest => some ((j :: done).reverse, rest)
      | _ => none

/-- Reads the members of an object up to its closing brace; `done` holds the
members so far, the last one first. -/
def readMembers? : Nat → Nat → List (String × Json) → List Char →
    Option (List (String × Json) × List Char)
  | 0, _, _, _ => none
  | fuel + 1, depth, done, cs =>
    match skipSpace cs with
    | '"' :: rest =>
      match readText? (fuel + 1) [] rest with
      | none => none
      | some (key, rest) =>
        match skipSpace rest with
        | ':' :: rest =>
          match readValue? fuel depth rest with
          | none => none
          | some (j, rest) =>
            match skipSpace rest with
            | ',' :: rest => readMembers? fuel depth ((key, j) :: done) rest
            | '\x7d' :: rest => some (((key, j) :: done).reverse, rest)
            | _ => none
        | _ => none
    | _ => none

end

/-- The value a text stands for, objects with their members as written. -/
def readRaw? (s : String) : Option Json :=
  let cs := s.toList
  match readValue? (2 * cs.length + 2) maxDepth cs with
  | some (j, rest) => if (skipSpace rest).isEmpty then some j else none
  | none => none

/-- The value a text stands for, settled. -/
def read? (s : String) : Option Json := (readRaw? s).map settle

end Json
end LedgerRules
