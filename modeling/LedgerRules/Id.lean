/-
# Identifiers

An identifier is a number of 128 bits.  It is written as 32 hexadecimal digits
in groups of 8, 4, 4, 4 and 12.  It is read with or without the hyphens; the
written form may also stand in braces or behind `urn:uuid:`.

Embeds what `parse_id`, `parse_ids` and `parse_uuid` take for a UUID, and the
text with hyphens in which every UUID of the program is written.
-/

import LedgerRules.Text.Hex

namespace LedgerRules

/-- An identifier. -/
structure Id where
  code : BitVec 128
  deriving DecidableEq, Repr

namespace Id

instance : Inhabited Id := ⟨⟨0#128⟩⟩

/-- Whether the first identifier comes first, in the order of numbers and of
texts. -/
def less (a b : Id) : Bool := a.code < b.code

/-- The written form. -/
def chars (id : Id) : List Char :=
  let digits := Text.hexChars 32 id.code.toNat
  digits.take 8 ++ '-' :: (digits.drop 8).take 4 ++ '-' :: (digits.drop 12).take 4 ++
    '-' :: (digits.drop 16).take 4 ++ '-' :: digits.drop 20

/-- The text of an identifier. -/
def text (id : Id) : String := String.ofList id.chars

/-- The identifier made from a random number: version 4, variant 1. -/
def ofSeed (seed : Nat) : Id :=
  ⟨BitVec.ofNat 128 seed &&& 0xffffffffffff0fff3fffffffffffffff#128 |||
    0x40008000000000000000#128⟩

/-- The identifier of 32 hexadecimal digits. -/
def ofDigits? (cs : List Char) : Option Id :=
  if cs.length = 32 then
    (Text.hexNumber? cs).map fun n => ⟨BitVec.ofNat 128 n⟩
  else none

/-- The identifier of five groups of digits with hyphens between them. -/
def ofGroups? (cs : List Char) : Option Id :=
  if cs.length = 36 && [8, 13, 18, 23].all (fun i => cs[i]? == some '-') then
    ofDigits? (cs.take 8 ++ (cs.drop 9).take 4 ++ (cs.drop 14).take 4 ++ (cs.drop 19).take 4 ++
      cs.drop 24)
  else none

/-- The identifier a text stands for. -/
def parse? (s : String) : Option Id :=
  let cs := s.toList
  if cs.length = 32 then ofDigits? cs
  else if cs.length = 36 then ofGroups? cs
  else if cs.length = 38 ∧ cs.head? = some '\x7b' ∧ cs.getLast? = some '\x7d' then
    ofGroups? ((cs.drop 1).take 36)
  else if cs.length = 45 ∧ cs.take 9 = "urn:uuid:".toList then ofGroups? (cs.drop 9)
  else none

end Id
end LedgerRules
