/-
# Upper and lower case

The full case mappings of Unicode.  A character may become several (`İ` is `i`
and a dot above, `ß` in capitals is `SS`), and one mapping looks around itself:
a capital sigma is `ς` at the end of a word, that is after a letter with case and
before none, marks and apostrophes skipped, and `σ` everywhere else.

`fold` is the simple folding, one character to one, under which two letters agree
when they differ in case alone.

Embeds `to_lowercase` and `to_uppercase` as `normalize`, `evaluate_text`,
`Logic.parse` and `Account.normalize_currency` call them, and the folding that
`regex` does under `(?i)`.
-/

import LedgerRules.Text.CaseTable

namespace LedgerRules
namespace Text

/-- Whether one of the ranges holds a number. -/
def inRanges (ranges : List (Nat × Nat)) (n : Nat) : Bool :=
  ranges.any fun (lo, hi) => lo ≤ n && n ≤ hi

/-- What a mapping table adds to a number, if it maps it. -/
def shiftOf? (runs : List (Nat × Nat × Nat × Int)) (n : Nat) : Option Int :=
  (runs.find? fun (lo, hi, step, _) => lo ≤ n && n ≤ hi && (n - lo) % step == 0).map
    fun (_, _, _, shift) => shift

/-- A character under a one-to-one mapping table. -/
def mapChar (runs : List (Nat × Nat × Nat × Int)) (c : Char) : Char :=
  match shiftOf? runs c.toNat with
  | some shift => Char.ofNat (c.toNat + shift).toNat
  | none => c

/-- Whether a character is a letter with case. -/
def isCased (c : Char) : Bool := inRanges CaseTable.cased c.toNat

/-- Whether a character is skipped in the search for a neighbouring letter. -/
def isCaseIgnorable (c : Char) : Bool := inRanges CaseTable.caseIgnorable c.toNat

/-- The lowercase of one character on its own. -/
def lowerChar (c : Char) : List Char :=
  if c = 'İ' then ['i', Char.ofNat 0x307] else [mapChar CaseTable.lowerRuns c]

/-- The uppercase of one character. -/
def upperChar (c : Char) : List Char :=
  match CaseTable.upperLong.lookup c.toNat with
  | some ns => ns.map Char.ofNat
  | none => [mapChar CaseTable.upperRuns c]

/-- Whether the first character that is not skipped has case. -/
def startsCased (cs : List Char) : Bool :=
  match cs.dropWhile isCaseIgnorable with
  | [] => false
  | c :: _ => isCased c

/-- The lowercase of a capital sigma between the characters `before` (nearest
first) and `after`. -/
def lowerSigma (before after : List Char) : Char :=
  if startsCased before && !startsCased after then 'ς' else 'σ'

/-- The lowercase of `cs` where `before` (nearest first) precedes it. -/
def lowerAfter (before : List Char) : List Char → List Char
  | [] => []
  | c :: rest =>
    (if c = 'Σ' then [lowerSigma before rest] else lowerChar c) ++ lowerAfter (c :: before) rest

/-- The lowercase of a list of characters. -/
def lowerChars (cs : List Char) : List Char := lowerAfter [] cs

/-- The lowercase of a text. -/
def lower (s : String) : String := String.ofList (lowerChars s.toList)

/-- The uppercase of a text. -/
def upper (s : String) : String := String.ofList (s.toList.flatMap upperChar)

/-- The lowercase of an ASCII letter; any other character is left alone. -/
def asciiLower (c : Char) : Char := c.toLower

/-- Whether two texts agree up to the case of ASCII letters. -/
def asciiCaseEq (s t : String) : Bool :=
  s.toList.map asciiLower == t.toList.map asciiLower

/-- The simple case folding of a character. -/
def fold (c : Char) : Char := mapChar CaseTable.foldRuns c

end Text
end LedgerRules
