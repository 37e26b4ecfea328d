/-
# Reading patterns

The written form of patterns.  Besides characters that stand for themselves
there are

| form | meaning |
| --- | --- |
| `.` `[…]` `\d` `\s` `\w` `\p{…}` `[:…:]` | one character of a set |
| `^` `$` `\A` `\z` `\b` `\B` `\<` `\>` `\b{start}` … | a condition on the position |
| `?` `*` `+` `{n}` `{n,}` `{n,m}` | a repetition; a `?` behind it changes no match |
| `(…)` `(?<name>…)` `(?P<name>…)` `(?flags:…)` | a group |
| `(?flags)` | switches for the rest of the group |
| `…|…` | alternatives |

There is no looking around and no reference to a group.  Sets are combined with
`&&`, `--` and `~~`.  A set that may hold bytes which are no characters is
refused, which under `(?-u)` is every negated set.  Brackets, groups,
repetitions and the sequences and alternatives between them nest up to 250 deep,
and a pattern whose repetitions written out pass `maxSize` is refused.

The reader keeps a stack of open groups.  A piece is a pattern with the depth of
its written form; a switch is a piece that cannot be repeated.

Embeds the parser of `regex`, by which the validator decides between a pattern
and `INVALID_REGEX` (section 4.1 of the specification) and the evaluator between
a test and a condition that never matches (section 4.3).  Which long patterns
pass its size limit is approximated (`Pattern.size`).
-/

import LedgerRules.Pattern.Basic
import LedgerRules.Text.Hex

namespace LedgerRules
namespace Pattern

/-- The switches that are in force at a place of a pattern. -/
structure Flags where
  ignoreCase : Bool := false
  multiLine : Bool := false
  dotAll : Bool := false
  anyNewline : Bool := false
  unicode : Bool := true
  spaced : Bool := false
  deriving Repr

/-- A pattern that was read, how deep its written form nests, and whether it may
be repeated. -/
structure Piece where
  pattern : Pattern
  depth : Nat
  repeatable : Bool := true

/-- What was read of the innermost open group, last pieces first, and the
switches outside it. -/
structure Frame where
  alternatives : List Piece
  pieces : List Piece
  outer : Flags

/-- Groups nest up to this depth. -/
def maxDepth : Nat := 250

/-! ### Blanks and comments -/

/-- Drops blanks and comments; `comment` says that a comment is open. -/
def skipFree (comment : Bool) : List Char → List Char
  | [] => []
  | c :: rest =>
    if comment then skipFree (c != '\n') rest
    else if Text.isBlank c then skipFree false rest
    else if c = '#' then skipFree true rest
    else c :: rest

/-- Drops blanks and comments where the pattern is written with free spacing. -/
def Flags.skip (flags : Flags) (cs : List Char) : List Char :=
  if flags.spaced then skipFree false cs else cs

/-- What stands behind the first character, blanks not counted. -/
def Flags.next (flags : Flags) (cs : List Char) : List Char := flags.skip (cs.drop 1)

/-- The character behind the first, blanks not counted. -/
def Flags.peek (flags : Flags) (cs : List Char) : Option Char :=
  if flags.spaced then
    match (cs.drop 1).dropWhile Text.isBlank with
    | '#' :: rest => (rest.dropWhile Text.isBlank).head?
    | rest => rest.head?
  else (cs.drop 1).head?

/-! ### Sets -/

/-- A set under the switches, closed under case. -/
def Flags.close (flags : Flags) (set : CharSet) : CharSet :=
  if flags.ignoreCase then (if flags.unicode then .closed set else .asciiClosed set) else set

/-- The complement of a set if asked for; refused where it would hold bytes that
are no characters. -/
def Flags.negate? (flags : Flags) (negated : Bool) (set : CharSet) : Option CharSet :=
  if !negated then some set else if flags.unicode then some (.compl set) else none

/-- The pattern of one character. -/
def Flags.literal (flags : Flags) (c : Char) : Pattern :=
  let n := c.toNat
  if !flags.ignoreCase then .char (.single n)
  else .char (.ofList (if flags.unicode then caseVariants n else asciiVariants n))

/-- One character as an item of a set; without Unicode an ASCII one. -/
def Flags.item? (flags : Flags) (c : Char) : Option Nat :=
  if flags.unicode || c.toNat < 128 then some c.toNat else none

/-! ### Escapes -/

/-- What an escape stands for. -/
inductive Escape
  | literal (c : Char)
  | set (s : CharSet)
  | look (l : Look)

/-- Whether a character has a meaning of its own in patterns. -/
def isMeta (c : Char) : Bool := "\\.+*?()|[]\x7b\x7d^$#&-~".toList.contains c

/-- Whether a character may be escaped to stand for itself. -/
def isEscapable (c : Char) : Bool :=
  isMeta c || (c.toNat < 128 && !c.isAlphanum && c != '<' && c != '>')

/-- The character of a code, if it is one. -/
def charOf? (n : Nat) : Option Char :=
  if n < 0xD800 ∨ (0xDFFF < n ∧ n < 0x110000) then some (Char.ofNat n) else none

/-- Reads a given number of hexadecimal digits. -/
def readHexDigits? (flags : Flags) : Nat → Nat → List Char → Option (Nat × List Char)
  | 0, n, cs => some (n, cs)
  | k + 1, n, cs =>
    match cs with
    | [] => none
    | c :: _ => (Text.hexDigit? c).bind fun d => readHexDigits? flags k (n * 16 + d) (flags.next cs)

/-- Reads hexadecimal digits up to a closing brace. -/
def readHexBrace? (flags : Flags) : Nat → Option Nat → List Char → Option (Nat × List Char)
  | 0, _, _ => none
  | fuel + 1, n, cs =>
    match cs with
    | [] => none
    | '\x7d' :: _ => n.map (·, flags.next cs)
    | c :: _ => (Text.hexDigit? c).bind fun d =>
        readHexBrace? flags fuel (some (min (n.getD 0 * 16 + d) 0x110000)) (flags.next cs)

/-- Reads the code of a character behind `\x`, `\u` or `\U`. -/
def readHex? (flags : Flags) (kind : Char) (cs : List Char) : Option (Char × List Char) := do
  let cs := flags.next cs
  match cs with
  | '\x7b' :: _ =>
    let (n, rest) ← readHexBrace? flags cs.length none (flags.next cs)
    return (← charOf? n, rest)
  | _ =>
    let count := if kind = 'x' then 2 else if kind = 'u' then 4 else 8
    let (n, rest) ← readHexDigits? flags count 0 cs
    if kind = 'x' && !flags.unicode && 128 ≤ n then none
    else return (← charOf? n, rest)

/-- The characters up to a closing brace and what follows the brace. -/
def readBraceName? (flags : Flags) : Nat → List Char → List Char → Option (List Char × List Char)
  | 0, _, _ => none
  | fuel + 1, name, cs =>
    match cs with
    | [] => none
    | '\x7d' :: rest => some (name.reverse, rest)
    | c :: _ => readBraceName? flags fuel (c :: name) (flags.next cs)

/-- The texts before and behind the first place where `mark` stands. -/
def splitAt? (mark : List Char) : List Char → Option (List Char × List Char)
  | [] => none
  | c :: rest =>
    if mark.isPrefixOf (c :: rest) then some ([], (c :: rest).drop mark.length)
    else (splitAt? mark rest).map fun (a, b) => (c :: a, b)

/-- The set that the inside of `\p{…}` names. -/
def propertySet? (name : List Char) : Option CharSet :=
  let text := String.ofList
  match splitAt? ['!', '='] name with
  | some (property, value) => (valued? (text property) (text value)).map .compl
  | none =>
    match splitAt? [':'] name with
    | some (property, value) => valued? (text property) (text value)
    | none =>
      match splitAt? ['='] name with
      | some (property, value) => valued? (text property) (text value)
      | none => named? (text name)

/-- Reads a property behind `\p` or `\P`. -/
def readProperty? (flags : Flags) (negated : Bool) (cs : List Char) :
    Option (CharSet × List Char) := do
  if !flags.unicode then none
  let cs := flags.next cs
  match cs with
  | [] => none
  | '\x7b' :: _ =>
    let (name, rest) ← readBraceName? flags cs.length [] (flags.next cs)
    let set ← propertySet? name
    return (← flags.negate? negated (flags.close set), rest)
  | c :: _ =>
    if c = '\\' then none
    let set ← propertySet? [c]
    return (← flags.negate? negated (flags.close set), flags.next cs)

/-- The set of `\d`, `\s`, `\w` or, with a capital, of its complement. -/
def perlSet? (flags : Flags) (c : Char) : Option CharSet :=
  let kind := c.toLower
  let set :=
    if kind = 'd' then (if flags.unicode then digits else asciiDigits)
    else if kind = 's' then (if flags.unicode then spaces else asciiSpaces)
    else (if flags.unicode then wordChars else asciiWordChars)
  flags.negate? (c != kind) set

/-- The condition that a name in braces behind `\b` stands for. -/
def edgeNamed? (ascii : Bool) (name : String) : Option Look :=
  [ ("start", Look.wordStart ascii), ("end", .wordEnd ascii),
    ("start-half", .noWordBefore ascii), ("end-half", .noWordAfter ascii) ].lookup name

/-- Whether a character may stand in the name of a condition. -/
def isEdgeChar (c : Char) : Bool := c.isAlpha || c == '-'

/-- The name of a condition and what follows it. -/
def readEdgeName (flags : Flags) : Nat → List Char → List Char → List Char × List Char
  | 0, name, cs => (name.reverse, cs)
  | fuel + 1, name, cs =>
    match cs with
    | [] => (name.reverse, [])
    | c :: _ =>
      if isEdgeChar c then readEdgeName flags fuel (c :: name) (flags.next cs)
      else (name.reverse, cs)

/-- Reads what follows `\b`: a name in braces, or nothing that belongs to it. -/
def readEdge? (flags : Flags) (cs : List Char) : Option (Look × List Char) :=
  let ascii := !flags.unicode
  match cs with
  | '\x7b' :: _ =>
    match flags.next cs with
    | [] => none
    | c :: rest =>
      if !isEdgeChar c then some (.wordEdge ascii, cs)
      else
        match readEdgeName flags cs.length [] (c :: rest) with
        | (name, '\x7d' :: rest) => (edgeNamed? ascii (String.ofList name)).map (·, rest)
        | _ => none
  | _ => some (.wordEdge ascii, cs)

/-- Reads an escape; `cs` begins behind the backslash. -/
def readEscape? (flags : Flags) (cs : List Char) : Option (Escape × List Char) :=
  let ascii := !flags.unicode
  match cs with
  | [] => none
  | c :: rest =>
    if c.isDigit then none
    else if c = 'x' || c = 'u' || c = 'U' then
      (readHex? flags c cs).map fun (c, rest) => (.literal c, rest)
    else if c = 'p' || c = 'P' then
      (readProperty? flags (c == 'P') cs).map fun (s, rest) => (.set s, rest)
    else if "dswDSW".toList.contains c then
      (perlSet? flags c).map fun s => (.set s, rest)
    else if isEscapable c then some (.literal c, rest)
    else if c = 'a' then some (.literal (Char.ofNat 7), rest)
    else if c = 'f' then some (.literal (Char.ofNat 12), rest)
    else if c = 't' then some (.literal '\t', rest)
    else if c = 'n' then some (.literal '\n', rest)
    else if c = 'r' then some (.literal '\r', rest)
    else if c = 'v' then some (.literal (Char.ofNat 11), rest)
    else if c = 'A' then some (.look .start, rest)
    else if c = 'z' then some (.look .finish, rest)
    else if c = 'b' then (readEdge? flags rest).map fun (l, rest) => (.look l, rest)
    else if c = 'B' then some (.look (.noWordEdge ascii), rest)
    else if c = '<' then some (.look (.wordStart ascii), rest)
    else if c = '>' then some (.look (.wordEnd ascii), rest)
    else none

/-! ### Bracketed sets -/

/-- An operation between sets. -/
inductive SetOp
  | inter
  | diff
  | symmDiff

/-- What was read of a bracketed set: its items, last ones first, each with its
depth, and the operation that waits for its right side. -/
structure SetFrame where
  negated : Bool
  items : List (CharSet × Nat)
  pending : Option (SetOp × CharSet × Nat)

/-- The union of the items of a set, and its depth. -/
def unite : List (CharSet × Nat) → CharSet × Nat
  | [] => (.empty, 0)
  | [item] => item
  | items =>
    (items.foldl (fun set (s, _) => .union s set) .empty,
      items.foldl (fun d (_, e) => max d e) 0 + 1)

/-- Completes the operation that waits for its right side. -/
def SetFrame.settle (frame : SetFrame) (flags : Flags) : CharSet × Nat :=
  let (right, depth) := unite frame.items
  match frame.pending with
  | none => (right, depth)
  | some (op, left, leftDepth) =>
    let a := flags.close left
    let b := flags.close right
    (match op with
      | .inter => .inter a b
      | .diff => .diff a b
      | .symmDiff => .symmDiff a b, max leftDepth depth + 1)

/-- Begins the right side of an operation. -/
def SetFrame.operate (frame : SetFrame) (flags : Flags) (op : SetOp) : SetFrame :=
  let (set, depth) := frame.settle flags
  { frame with items := [], pending := some (op, set, depth) }

/-- Reads the start of a bracketed set: the caret, and the hyphens or the
bracket that stand for themselves there. -/
def openSet? (flags : Flags) (cs : List Char) : Option (SetFrame × List Char) :=
  let cs := flags.next cs
  let (negated, cs) := match cs with
    | '^' :: _ => (true, flags.next cs)
    | _ => (false, cs)
  let rec hyphens : Nat → List (CharSet × Nat) → List Char → List (CharSet × Nat) × List Char
    | 0, items, cs => (items, cs)
    | fuel + 1, items, cs =>
      match cs with
      | '-' :: _ => hyphens fuel ((.single 45, 0) :: items) (flags.next cs)
      | _ => (items, cs)
  let (items, cs) := hyphens cs.length [] cs
  let (items, cs) := match items, cs with
    | [], ']' :: _ => ([(CharSet.single 93, 0)], flags.next cs)
    | _, _ => (items, cs)
  if cs.isEmpty then none else some (⟨negated, items, none⟩, cs)

/-- Reads a class such as `[:alpha:]` or `[:^alpha:]`, if there is one. -/
def readNamedClass? (flags : Flags) (cs : List Char) : Option (Option CharSet × List Char) :=
  match cs with
  | '[' :: ':' :: rest =>
    let (negated, rest) := match rest with
      | '^' :: rest => (true, rest)
      | _ => (false, rest)
    match splitAt? [':'] rest with
    | some (name, ']' :: rest) =>
      (asciiClass? (String.ofList name)).map fun set =>
        (flags.negate? negated (flags.close set), rest)
    | _ => none
  | _ => none

/-- Reads one end of a range or one item of a set. -/
def readSetItem? (flags : Flags) (cs : List Char) : Option (Escape × List Char) :=
  match cs with
  | [] => none
  | '\\' :: rest => readEscape? flags rest
  | c :: rest => some (.literal c, rest)

/-- Reads an item of a set or a range. -/
def readSetRange? (flags : Flags) (cs : List Char) : Option (CharSet × List Char) := do
  let (first, rest) ← readSetItem? flags cs
  let rest := flags.skip rest
  let alone : Option (CharSet × List Char) := match first with
    | .literal c => (flags.item? c).map fun n => (.single n, rest)
    | .set s => some (s, rest)
    | .look _ => none
  match rest with
  | [] => none
  | c :: _ =>
    if c != '-' || flags.peek rest == some ']' || flags.peek rest == some '-' then alone
    else
      let (last, rest) ← readSetItem? flags (flags.next rest)
      match first, last with
      | .literal a, .literal b =>
        let lo ← flags.item? a
        let hi ← flags.item? b
        if lo ≤ hi then return (.range lo hi, rest) else none
      | _, _ => none

/-- Reads the rest of a bracketed set; `outer` holds the sets it stands in. -/
def readSet? (flags : Flags) : Nat → List SetFrame → SetFrame → List Char →
    Option (CharSet × Nat × List Char)
  | 0, _, _, _ => none
  | fuel + 1, outer, frame, cs =>
    let cs := flags.skip cs
    match cs with
    | [] => none
    | '[' :: _ =>
      match readNamedClass? flags cs with
      | some (some set, rest) =>
        readSet? flags fuel outer { frame with items := (set, 0) :: frame.items } rest
      | some (none, _) => none
      | none =>
        match openSet? flags cs with
        | some (inner, rest) => readSet? flags fuel (frame :: outer) inner rest
        | none => none
    | ']' :: rest =>
      let (set, depth) := frame.settle flags
      match flags.negate? frame.negated (flags.close set) with
      | none => none
      | some set =>
        match outer with
        | [] => some (set, depth + 1, rest)
        | parent :: outer =>
          let parent := { parent with items := (set, depth + 1) :: parent.items }
          readSet? flags fuel outer parent rest
    | '&' :: '&' :: rest => readSet? flags fuel outer (frame.operate flags .inter) rest
    | '-' :: '-' :: rest => readSet? flags fuel outer (frame.operate flags .diff) rest
    | '~' :: '~' :: rest => readSet? flags fuel outer (frame.operate flags .symmDiff) rest
    | _ =>
      match readSetRange? flags cs with
      | some (set, rest) =>
        readSet? flags fuel outer { frame with items := (set, 0) :: frame.items } rest
      | none => none

/-! ### Repetitions -/

/-- A number up to the greatest of 32 bits, blanks around it. -/
def readCount? (flags : Flags) (cs : List Char) : Option (Nat × List Char) :=
  let rec digits : Nat → Option Nat → List Char → Option Nat × List Char
    | 0, n, cs => (n, cs)
    | fuel + 1, n, cs =>
      match cs with
      | c :: _ =>
        if c.isDigit then digits fuel (some (n.getD 0 * 10 + (c.toNat - 48))) (flags.next cs)
        else (n, cs)
      | [] => (n, [])
  let (n, rest) := digits cs.length none (cs.dropWhile Text.isBlank)
  n.bind fun n =>
    if n < 4294967296 then some (n, flags.skip (rest.dropWhile Text.isBlank)) else none

/-- Reads the counts of a repetition up to the closing brace and the `?` behind
it. -/
def readCounts? (flags : Flags) (cs : List Char) : Option (Nat × Option Nat × List Char) := do
  let finish (least : Nat) (most : Option Nat) (rest : List Char) :
      Option (Nat × Option Nat × List Char) :=
    match rest with
    | '\x7d' :: _ =>
      let rest := flags.next rest
      let rest := match rest with
        | '?' :: rest => rest
        | _ => rest
      if most.elim true (least ≤ ·) then some (least, most, rest) else none
    | _ => none
  let (least, rest) ← readCount? flags (flags.next cs)
  match rest with
  | ',' :: _ =>
    let rest := flags.next rest
    match rest with
    | [] => none
    | '\x7d' :: _ => finish least none rest
    | _ =>
      let (most, rest) ← readCount? flags rest
      finish least (some most) rest
  | _ => finish least (some least) rest

/-- A piece repeated. -/
def Piece.times (piece : Piece) (least : Nat) (most : Option Nat) : Piece :=
  ⟨.times piece.pattern least most, piece.depth + 1, true⟩

/-! ### Groups -/

/-- The pieces of a sequence, last one first, as one piece. -/
def joinPieces : List Piece → Piece
  | [] => ⟨.empty, 0, true⟩
  | [piece] => piece
  | piece :: rest =>
    ⟨rest.foldl (fun p q => .seq q.pattern p) piece.pattern,
      rest.foldl (fun d q => max d q.depth) piece.depth + 1, true⟩

/-- The alternatives of a group, last one first, as one piece. -/
def joinAlternatives (last : Piece) : List Piece → Piece
  | [] => last
  | rest =>
    ⟨rest.foldl (fun p q => .either q.pattern p) last.pattern,
      rest.foldl (fun d q => max d q.depth) last.depth + 1, true⟩

/-- What a frame holds as one piece. -/
def Frame.close (frame : Frame) : Piece :=
  joinAlternatives (joinPieces frame.pieces) frame.alternatives

/-- Sets a switch. -/
def Flags.set? (flags : Flags) (on : Bool) (c : Char) : Option Flags :=
  if c = 'i' then some { flags with ignoreCase := on }
  else if c = 'm' then some { flags with multiLine := on }
  else if c = 's' then some { flags with dotAll := on }
  else if c = 'U' then some flags
  else if c = 'u' then some { flags with unicode := on }
  else if c = 'R' then some { flags with anyNewline := on }
  else if c = 'x' then some { flags with spaced := on }
  else none

/-- Reads switches up to a colon or a closing parenthesis, which is the first
character of the rest; `seen` holds the switches and signs so far. -/
def readFlags? (flags : Flags) (seen : List Char) : List Char → Option (Flags × Bool × List Char)
  | [] => none
  | c :: rest =>
    if c = ':' || c = ')' then
      if seen.head? == some '-' then none else some (flags, seen.isEmpty, c :: rest)
    else if seen.contains c then none
    else if c = '-' then readFlags? flags (c :: seen) rest
    else (flags.set? (!seen.contains '-') c).bind fun flags => readFlags? flags (c :: seen) rest

/-- Whether a character may stand in the name of a group. -/
def isNameChar (first : Bool) (c : Char) : Bool :=
  let letter := (rowSet TraitTable.traits "alpha").holds c.toNat
  c = '_' || letter ||
    (!first && (c = '.' || c = '[' || c = ']' ||
      (rowSet CategoryTable.categories "n").holds c.toNat))

/-- Reads the name of a group up to its closing angle. -/
def readName? (cs : List Char) : Option (String × List Char) :=
  match splitAt? ['>'] cs with
  | none => none
  | some (name, rest) =>
    match name with
    | [] => none
    | c :: more =>
      if isNameChar true c && more.all (isNameChar false) then some (String.ofList name, rest)
      else none

/-- What an opening parenthesis begins. -/
inductive Opening
  | group (name : Option String) (inner : Flags)
  | switch (flags : Flags)

/-- Reads what follows an opening parenthesis. -/
def readOpening? (flags : Flags) (cs : List Char) : Option (Opening × List Char) :=
  let cs := flags.skip cs
  if ["?=", "?!", "?<=", "?<!"].any (fun mark => mark.toList.isPrefixOf cs) then none
  else match cs with
    | '?' :: 'P' :: '<' :: rest => named rest
    | '?' :: '<' :: rest => named rest
    | '?' :: rest =>
      match readFlags? flags [] rest with
      | some (inner, _, ':' :: rest) => some (.group none inner, rest)
      | some (inner, false, ')' :: rest) => some (.switch inner, rest)
      | _ => none
    | _ => some (.group none flags, cs)
where
  /-- A group with a name. -/
  named (cs : List Char) : Option (Opening × List Char) :=
    (readName? cs).map fun (name, rest) => (.group (some name) flags, rest)

/-! ### Patterns -/

/-- The condition of a caret. -/
def Flags.caret (flags : Flags) : Look :=
  if !flags.multiLine then .start else if flags.anyNewline then .anyLineStart else .lineStart

/-- The condition of a dollar. -/
def Flags.dollar (flags : Flags) : Look :=
  if !flags.multiLine then .finish else if flags.anyNewline then .anyLineEnd else .lineEnd

/-- The set of a dot. -/
def Flags.dot? (flags : Flags) : Option CharSet :=
  if !flags.unicode then none
  else if flags.dotAll then some .all
  else if flags.anyNewline then some (.compl (.table [(10, 10), (13, 13)]))
  else some (.compl (.single 10))

/-- The pattern of an escape outside brackets. -/
def Escape.pattern (flags : Flags) : Escape → Pattern
  | .literal c => flags.literal c
  | .set s => .char s
  | .look l => .look l

/-- Reads a pattern from the start of its text, `frame` being the innermost open
group and `outer` the groups around it. -/
def readPieces? : Nat → Flags → List String → List Frame → Frame → List Char → Option Piece
  | 0, _, _, _, _, _ => none
  | fuel + 1, flags, names, outer, frame, cs =>
    let push (piece : Piece) (rest : List Char) : Option Piece :=
      readPieces? fuel flags names outer { frame with pieces := piece :: frame.pieces } rest
    let repeatLast (least : Nat) (most : Option Nat) (rest : List Char) : Option Piece :=
      match frame.pieces with
      | [] => none
      | piece :: before =>
        if !piece.repeatable then none
        else readPieces? fuel flags names outer
          { frame with pieces := piece.times least most :: before } rest
    let lazily (rest : List Char) : List Char :=
      match rest with
      | '?' :: rest => rest
      | _ => rest
    let cs := flags.skip cs
    match cs with
    | [] => if outer.isEmpty then some frame.close else none
    | c :: rest =>
      if c = '(' then
        match readOpening? flags rest with
        | none => none
        | some (.switch inner, rest) =>
          readPieces? fuel inner names outer
            { frame with pieces := ⟨.empty, 0, false⟩ :: frame.pieces } rest
        | some (.group name inner, rest) =>
          if name.elim false names.contains then none
          else readPieces? fuel inner (name.toList ++ names) (frame :: outer) ⟨[], [], flags⟩ rest
      else if c = ')' then
        match outer with
        | [] => none
        | parent :: outer =>
          let inner := frame.close
          let piece : Piece := ⟨inner.pattern, inner.depth + 1, true⟩
          readPieces? fuel frame.outer names outer
            { parent with pieces := piece :: parent.pieces } rest
      else if c = '|' then
        readPieces? fuel flags names outer
          { frame with alternatives := joinPieces frame.pieces :: frame.alternatives, pieces := [] }
          rest
      else if c = '[' then
        match openSet? flags cs with
        | none => none
        | some (set, after) =>
          match readSet? flags cs.length [] set after with
          | some (set, depth, rest) => push ⟨.char set, depth, true⟩ rest
          | none => none
      else if c = '?' then repeatLast 0 (some 1) (lazily rest)
      else if c = '*' then repeatLast 0 none (lazily rest)
      else if c = '+' then repeatLast 1 none (lazily rest)
      else if c = '\x7b' then
        match readCounts? flags cs with
        | some (least, most, rest) => repeatLast least most rest
        | none => none
      else if c = '\\' then
        match readEscape? flags rest with
        | some (escape, rest) => push ⟨escape.pattern flags, 0, true⟩ rest
        | none => none
      else if c = '.' then
        match flags.dot? with
        | some set => push ⟨.char set, 0, true⟩ rest
        | none => none
      else if c = '^' then push ⟨.look flags.caret, 0, true⟩ rest
      else if c = '$' then push ⟨.look flags.dollar, 0, true⟩ rest
      else push ⟨flags.literal c, 0, true⟩ rest

/-- The pattern that a text stands for, if it is one; `ignoreCase` switches case
off from the start. -/
def compile? (ignoreCase : Bool) (s : String) : Option Pattern :=
  let flags : Flags := { ignoreCase := ignoreCase }
  let cs := s.toList
  match readPieces? (cs.length + 1) flags [] [] ⟨[], [], flags⟩ cs with
  | some piece =>
    if piece.depth ≤ maxDepth ∧ piece.pattern.size ≤ maxSize then some piece.pattern else none
  | none => none

end Pattern
end LedgerRules
