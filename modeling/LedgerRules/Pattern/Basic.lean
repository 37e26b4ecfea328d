/-
# Patterns and what they match

A pattern matches a stretch of a text.  A set of positions in a text is a number
whose bit `i` stands for the position before character `i`.  `p.along line` lays
a pattern along a text: what it asks of characters and of positions becomes the
set of positions where it is so.  `w.ends bound s` is the set of positions at
which a match can end that starts at one of the positions in `s`.  A text holds
a match as soon as some start has an end.

Repeating a step more often than there are positions reaches nothing new: each
step leads to the same position or to a later one, so among that many steps one
stays where it is and can be repeated or left out.  Counts are therefore cut at
one more than the length of the text.

Embeds `is_match` of `regex`, by which `evaluate_text` tests a pattern (section
4.3 of the specification, Evaluator).  Its engine is not copied: what is kept is
which texts match.
-/

import LedgerRules.Pattern.Property

namespace LedgerRules

/-- A condition on a position. -/
inductive Look
  | start
  | finish
  | lineStart
  | lineEnd
  | anyLineStart
  | anyLineEnd
  | wordEdge (ascii : Bool)
  | noWordEdge (ascii : Bool)
  | wordStart (ascii : Bool)
  | wordEnd (ascii : Bool)
  | noWordBefore (ascii : Bool)
  | noWordAfter (ascii : Bool)
  deriving DecidableEq, Repr

/-- A pattern. -/
inductive Pattern
  | empty
  | char (set : Pattern.CharSet)
  | look (l : Look)
  | seq (a b : Pattern)
  | either (a b : Pattern)
  | times (p : Pattern) (least : Nat) (most : Option Nat)
  deriving Repr

namespace Look

/-- Whether a character makes words. -/
def isWord (ascii : Bool) (c : Option Char) : Bool :=
  match c with
  | some c => (if ascii then Pattern.asciiWordChars else Pattern.wordChars).holds c.toNat
  | none => false

/-- Whether a condition holds between the characters `before` and `after`. -/
def holds (l : Look) (before after : Option Char) : Bool :=
  match l with
  | start => before.isNone
  | finish => after.isNone
  | lineStart => before.isNone || before == some '\n'
  | lineEnd => after.isNone || after == some '\n'
  | anyLineStart =>
    before.isNone || before == some '\n' || (before == some '\r' && after != some '\n')
  | anyLineEnd =>
    after.isNone || after == some '\r' || (after == some '\n' && before != some '\r')
  | wordEdge ascii => isWord ascii before != isWord ascii after
  | noWordEdge ascii => isWord ascii before == isWord ascii after
  | wordStart ascii => !isWord ascii before && isWord ascii after
  | wordEnd ascii => isWord ascii before && !isWord ascii after
  | noWordBefore ascii => !isWord ascii before
  | noWordAfter ascii => !isWord ascii after

/-- The positions of a text at which a condition holds, the first of them being
position `i` behind the character `before`. -/
def positions (l : Look) (i : Nat) (before : Option Char) : List Char → Nat
  | [] => if l.holds before none then 1 <<< i else 0
  | c :: rest =>
    (if l.holds before (some c) then 1 <<< i else 0) ||| positions l (i + 1) (some c) rest

end Look

namespace Pattern

/-- The positions before the characters of a set, the first character standing
behind position `i`. -/
def CharSet.positions (set : CharSet) (i : Nat) : List Char → Nat
  | [] => 0
  | c :: rest => (if set.holds c.toNat then 1 <<< i else 0) ||| positions set (i + 1) rest

end Pattern

/-- A pattern laid along a text. -/
inductive Way
  | stay
  | stayAt (places : Nat)
  | advanceAt (places : Nat)
  | seq (a b : Way)
  | either (a b : Way)
  | times (w : Way) (least : Nat) (most : Option Nat)
  deriving Repr

namespace Way

/-- Applies a step a number of times, or until it changes nothing. -/
def iterate (f : Nat → Nat) : Nat → Nat → Nat
  | 0, s => s
  | n + 1, s => if f s = s then s else iterate f n (f s)

/-- The positions at which a match can end that starts in `s`; no step is
repeated more than `bound` times. -/
def ends (bound : Nat) : Way → Nat → Nat
  | stay, s => s
  | stayAt places, s => s &&& places
  | advanceAt places, s => (s &&& places) <<< 1
  | seq a b, s => ends bound b (ends bound a s)
  | either a b, s => ends bound a s ||| ends bound b s
  | times w least most, s =>
    let first := iterate (ends bound w) (min least bound) s
    let more := most.elim bound fun m => min (m - least) bound
    iterate (fun t => t ||| ends bound w t) more first

end Way

namespace Pattern

/-- The pattern laid along a text. -/
def along (line : List Char) : Pattern → Way
  | empty => .stay
  | char set => .advanceAt (set.positions 0 line)
  | look l => .stayAt (l.positions 0 none line)
  | seq a b => .seq (along line a) (along line b)
  | either a b => .either (along line a) (along line b)
  | times p least most => .times (along line p) least most

/-- Whether a text holds a match of a pattern. -/
def isMatch (p : Pattern) (s : String) : Bool :=
  let bound := s.toList.length + 1
  (p.along s.toList).ends bound (1 <<< bound - 1) != 0

/-! ### Size -/

/-- Whether a pattern matches the empty stretch alone. -/
def onlyEmpty : Pattern → Bool
  | empty => true
  | look _ => true
  | char _ => false
  | seq a b => a.onlyEmpty && b.onlyEmpty
  | either a b => a.onlyEmpty && b.onlyEmpty
  | times p _ most => p.onlyEmpty || most == some 0

/-- The room that the states for one character take, in bytes; an approximation,
as `size` is. -/
def CharSet.size (set : CharSet) : Nat :=
  if set.weight ≤ 1 then 32 else if set.weight ≤ 4 then 32 + 8 * set.weight else 60 * set.weight

/-- The room that a pattern takes when its repetitions are written out, in
bytes.  This approximates what the compiled program of a matcher takes: capture
groups cost nothing here, though they have states of their own there, and an
alternation of single letters costs more than the one state that it is folded
into.  So patterns that come near to `maxSize` may be on the other side of it.
Nothing that is shown of rules depends on which patterns can be compiled. -/
def size : Pattern → Nat
  | empty => 32
  | char set => set.size
  | look _ => 32
  | seq a b => a.size + b.size
  | either a b => a.size + b.size + 40
  | times p least most =>
    if p.onlyEmpty then p.size + 32
    else match most with
      | none => max least 1 * p.size + 32
      | some m => least * p.size + (m - least) * (p.size + 32)

/-- The room that a pattern may take: the size limit of 10 MiB that a matcher
has by default. -/
def maxSize : Nat := 10485760

end Pattern
end LedgerRules
