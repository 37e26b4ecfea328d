/-
# Sets of characters

What one position of a pattern may match.  A set is built from ranges by the
operations of a bracketed class and is asked one character at a time; `closed`
closes a set under simple case folding, so that it holds a letter as soon as it
holds another case of it, and `asciiClosed` does so for ASCII letters alone.

The ranges of a table are written as alternating gaps and lengths, each a number to
base 26 whose last digit is a small letter and whose digits before it are capitals.

Embeds the classes of `regex`: their union, intersection, difference and symmetric
difference, their complement, and their closure under `(?i)`.
-/

import LedgerRules.Text.Case

namespace LedgerRules
namespace Pattern

/-- A set of characters. -/
inductive CharSet
  | empty
  | range (lo hi : Nat)
  | table (ranges : List (Nat × Nat))
  | union (a b : CharSet)
  | inter (a b : CharSet)
  | diff (a b : CharSet)
  | symmDiff (a b : CharSet)
  | compl (a : CharSet)
  | closed (a : CharSet)
  | asciiClosed (a : CharSet)
  deriving Repr

/-- The letters that a row of the folding table maps to `target`. -/
def foldSources (target : Nat) : Nat × Nat × Nat × Int → List Nat
  | (lo, hi, step, shift) =>
    let source := (target : Int) - shift
    let n := source.toNat
    if 0 ≤ source ∧ lo ≤ n ∧ n ≤ hi ∧ (n - lo) % step = 0 then [n] else []

/-- The characters that differ from a character in case alone, itself included. -/
def caseVariants (n : Nat) : List Nat :=
  let target := match Text.shiftOf? Text.CaseTable.foldRuns n with
    | some shift => (n + shift).toNat
    | none => n
  target :: Text.CaseTable.foldRuns.flatMap (foldSources target)

/-- An ASCII letter in both cases; another character alone. -/
def asciiVariants (n : Nat) : List Nat :=
  if 65 ≤ n ∧ n ≤ 90 then [n, n + 32]
  else if 97 ≤ n ∧ n ≤ 122 then [n, n - 32]
  else [n]

namespace CharSet

/-- Whether a set holds the character with a code. -/
def holds : CharSet → Nat → Bool
  | empty, _ => false
  | range lo hi, n => lo ≤ n && n ≤ hi
  | table ranges, n => Text.inRanges ranges n
  | union a b, n => a.holds n || b.holds n
  | inter a b, n => a.holds n && b.holds n
  | diff a b, n => a.holds n && !b.holds n
  | symmDiff a b, n => a.holds n != b.holds n
  | compl a, n => !a.holds n
  | closed a, n => (caseVariants n).any a.holds
  | asciiClosed a, n => (asciiVariants n).any a.holds

/-- The set of one character. -/
def single (n : Nat) : CharSet := range n n

/-- The set of the listed characters. -/
def ofList (ns : List Nat) : CharSet := table (ns.map fun n => (n, n))

/-- Every character. -/
def all : CharSet := range 0 0x10FFFF

/-- How many ranges describe a set, counted from above. -/
def weight : CharSet → Nat
  | empty => 0
  | range _ _ => 1
  | table ranges => ranges.length
  | union a b => a.weight + b.weight
  | inter a b => a.weight + b.weight
  | diff a b => a.weight + b.weight
  | symmDiff a b => a.weight + b.weight
  | compl a => a.weight + 1
  | closed a => a.weight + 1
  | asciiClosed a => a.weight + 1

/-- The ranges that a row of a table writes: `start` is the end of the range
before, `lo` the start of a range whose length is being read, `n` the digits so
far. -/
def decodeRanges (start : Nat) (lo : Option Nat) (n : Nat) : List Char → List (Nat × Nat)
  | [] => []
  | c :: rest =>
    if c.isUpper then decodeRanges start lo (n * 26 + (c.toNat - 65)) rest
    else
      let n := n * 26 + (c.toNat - 97)
      match lo with
      | none => decodeRanges start (some (start + n)) 0 rest
      | some lo => (lo, lo + n - 1) :: decodeRanges (lo + n) none 0 rest

/-- The set that a row of a table writes. -/
def ofRow (row : List String) : CharSet :=
  table (decodeRanges 0 none 0 (row.flatMap String.toList))

end CharSet
end Pattern
end LedgerRules
