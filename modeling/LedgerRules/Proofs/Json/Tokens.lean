/-
# Tokens and the blanks between them

A reader takes a text from its quotes, a number from its digits and a word as it
is, and it passes over blanks.  So a list of items, each behind a comma, is read
item by item, whatever blanks are written in between (`Spacing`), and so are the
members of an object.  What is read of an array or of an object is put together
from what is read of the parts, and it is nothing if one of these is not read
(`Spacing.gives_arr`, `Spacing.gives_obj`).

The forms of a value differ in their blanks alone, so this serves each of them.
-/

import LedgerRules.Json.Reader
import LedgerRules.Json.Writer
import LedgerRules.Proofs.Json.DoubleText
import LedgerRules.Proofs.Lists

namespace LedgerRules
namespace Json

/-! ### Texts -/

/-- A control character is read from its number in four digits. -/
theorem readUnicodeEscape?_hexChars {c : Char} (h : c.toNat < 0x20) (rest : List Char) :
    readUnicodeEscape? ('0' :: '0' :: Text.hexChars 2 c.toNat ++ rest) = some (c, rest) := by
  have hlen : ('0' :: '0' :: Text.hexChars 2 c.toNat).length = 4 := by
    simp [Text.length_hexChars]
  have hvalue : Text.hexNumber? ('0' :: '0' :: Text.hexChars 2 c.toNat) = some c.toNat := by
    have hzeros : Text.hexChars 4 c.toNat = '0' :: '0' :: Text.hexChars 2 c.toNat := by
      have hsmall : c.toNat / 16 / 16 = 0 := by omega
      simp only [Text.hexChars, hsmall]
      rfl
    rw [← hzeros, Text.hexNumber?_hexChars, Nat.mod_eq_of_lt (by omega)]
  have hread : readHex4? ('0' :: '0' :: Text.hexChars 2 c.toNat ++ rest) =
    some (c.toNat, rest) := by
    unfold readHex4?
    rw [List.take_append_of_le_length (by omega), List.take_of_length_le (by omega), if_pos hlen,
      hvalue, List.drop_append_of_le_length (by omega), List.drop_of_length_le (by omega)]
    rfl
  unfold readUnicodeEscape?
  rw [hread]
  have hlow : (decide (0xDC00 ≤ c.toNat) && decide (c.toNat ≤ 0xDFFF)) = false := by
    simp
    omega
  have hhigh : (decide (0xD800 ≤ c.toNat) && decide (c.toNat ≤ 0xDBFF)) = false := by
    simp
    omega
  simp only [Option.bind_eq_bind, Option.bind_some, hlow, hhigh]
  rw [Char.ofNat_toNat]
  rfl

/-- **A character is read in one step**, escaped or not. -/
theorem readText?_escapeChar (fuel : Nat) (done : List Char) (c : Char) (rest : List Char) :
    readText? (fuel + 1) done (escapeChar c ++ rest) = readText? fuel (c :: done) rest := by
  by_cases hquote : c = '"'
  · subst hquote; simp [escapeChar, readText?, simpleEscape?]
  by_cases hslash : c = '\\'
  · subst hslash; simp [escapeChar, readText?, simpleEscape?]
  by_cases hline : c = '\n'
  · subst hline; simp [escapeChar, readText?, simpleEscape?]
  by_cases hreturn : c = '\r'
  · subst hreturn; simp [escapeChar, readText?, simpleEscape?]
  by_cases htab : c = '\t'
  · subst htab; simp [escapeChar, readText?, simpleEscape?]
  by_cases hback : c = Char.ofNat 8
  · subst hback; simp [escapeChar, readText?, simpleEscape?]
  by_cases hfeed : c = Char.ofNat 12
  · subst hfeed; simp [escapeChar, readText?, simpleEscape?]
  by_cases hcontrol : c.toNat < 0x20
  · have hescape : escapeChar c = '\\' :: 'u' :: ('0' :: '0' :: Text.hexChars 2 c.toNat) := by
      simp [escapeChar, hquote, hslash, hline, hreturn, htab, hback, hfeed, hcontrol]
    rw [hescape, List.cons_append, List.cons_append, readText?, if_neg (by decide), if_pos rfl,
      readUnicodeEscape?_hexChars hcontrol]
  · simp [escapeChar, hquote, hslash, hline, hreturn, htab, hback, hfeed, hcontrol, readText?]

/-- A text is read up to its closing quote. -/
theorem readText?_flatMap (cs done rest : List Char) {fuel : Nat}
    (h : (cs.flatMap escapeChar).length < fuel) :
    readText? fuel done (cs.flatMap escapeChar ++ '"' :: rest) =
      some (String.ofList (done.reverse ++ cs), rest) := by
  induction cs generalizing fuel done with
  | nil =>
    obtain ⟨fuel, rfl⟩ : ∃ n, fuel = n + 1 := ⟨fuel - 1, by omega⟩
    simp [readText?]
  | cons c cs ih =>
    have hone : 0 < (escapeChar c).length := by
      unfold escapeChar
      split_ifs <;> simp
    rw [List.flatMap_cons, List.length_append] at h
    obtain ⟨fuel, rfl⟩ : ∃ n, fuel = n + 1 := ⟨fuel - 1, by omega⟩
    rw [List.flatMap_cons, List.append_assoc, readText?_escapeChar, ih _ (by omega),
      List.reverse_cons, List.append_assoc]
    rfl

/-- **A text is read as it was quoted.** Whatever characters it has, those that
need it are escaped. -/
theorem readText?_quote (s : String) (rest : List Char) {fuel : Nat}
    (h : (quote s).length < fuel + 2) :
    ∃ cs, quote s ++ rest = '"' :: cs ∧ readText? fuel [] cs = some (s, rest) := by
  unfold quote at h ⊢
  rw [List.cons_append, List.length_cons, List.length_append, List.length_singleton] at h
  refine ⟨s.toList.flatMap escapeChar ++ '"' :: rest, ?_, ?_⟩
  · rw [List.cons_append, List.cons_append, List.append_assoc]
    rfl
  · rw [readText?_flatMap _ _ _ (by omega), List.reverse_nil, List.nil_append, String.ofList_toList]

/-! ### Blanks -/

/-- Characters that a reader passes over: blanks, tabs and ends of lines. -/
def Blank (cs : List Char) : Prop := ∀ c ∈ cs, isSpace c = true

/-- No characters are blank. -/
theorem blank_nil : Blank [] := List.forall_mem_nil _

/-- A reader stops at the first character that is no blank. -/
theorem skipSpace_cons {c : Char} (h : isSpace c = false) (cs : List Char) :
    skipSpace (c :: cs) = c :: cs := by
  unfold skipSpace
  rw [List.dropWhile_cons_of_neg]
  rw [h]
  exact Bool.false_ne_true

namespace Blank

variable {gap : List Char} (h : Blank gap)

include h

/-- Blanks in front are passed over. -/
theorem skipSpace (cs : List Char) : Json.skipSpace (gap ++ cs) = Json.skipSpace cs := by
  unfold Json.skipSpace
  rw [List.dropWhile_append_of_pos h]

/-- They are passed over in front of a value, -/
theorem readValue? (fuel levels : Nat) (cs : List Char) :
    Json.readValue? fuel levels (gap ++ cs) = Json.readValue? fuel levels cs := by
  cases fuel with
  | zero => rfl
  | succ fuel => rw [Json.readValue?, Json.readValue?, h.skipSpace]

/-- in front of the items of an array, -/
theorem readItems? (fuel levels : Nat) (done : List Json) (cs : List Char) :
    Json.readItems? fuel levels done (gap ++ cs) = Json.readItems? fuel levels done cs := by
  cases fuel with
  | zero => rfl
  | succ fuel => rw [Json.readItems?, Json.readItems?, h.readValue?]

/-- and in front of the members of an object. -/
theorem readMembers? (fuel levels : Nat) (done : List (String × Json)) (cs : List Char) :
    Json.readMembers? fuel levels done (gap ++ cs) = Json.readMembers? fuel levels done cs := by
  cases fuel with
  | zero => rfl
  | succ fuel => rw [Json.readMembers?, Json.readMembers?, h.skipSpace]

end Blank

/-! ### Values without parts -/

/-- A digit is no blank and no bracket. -/
theorem isDigit_plain {c : Char} (h : c.isDigit = true) : isSpace c = false ∧ c ≠ ']' := by
  constructor
  · rw [Bool.eq_false_iff]
    intro hs
    unfold isSpace at hs
    simp only [Bool.or_eq_true, beq_iff_eq] at hs
    rcases hs with ((rfl | rfl) | rfl) | rfl <;> cases h
  · rintro rfl
    cases h

/-- The characters begin with one that is no blank and no closing bracket, as
those of values do.  By this a reader tells an element from the end of a list.
-/
def Opens (cs : List Char) : Prop := ∃ c rest, cs = c :: rest ∧ isSpace c = false ∧ c ≠ ']'

/-- The text of a number begins with a hyphen or a digit, so it opens a value. -/
theorem opens_toText (n : Number) : Opens n.toText.toList := by
  obtain ⟨c, cs, hcs, hc⟩ := n.toText_eq_cons
  refine ⟨c, cs, hcs, ?_⟩
  rcases hc with rfl | hc
  · exact ⟨rfl, by decide⟩
  · exact isDigit_plain hc

/-- In front of these characters, a reader gives what comes back of them, if
anything does, and stops behind them; `follows` says what may stand there. -/
def Gives (follows : List Char → Prop) (levels : Nat) (cs : List Char) (back : Option Json) :
    Prop :=
  ∀ fuel rest, 2 * cs.length ≤ fuel → follows rest →
    readValue? fuel levels (cs ++ rest) = back.map (·, rest)

section Scalars

variable {follows : List Char → Prop} {levels : Nat}

/-- The word `null` is read as it stands. -/
theorem gives_null : Gives follows levels (scalar null) (some null) := by
  intro fuel rest hfuel _
  obtain ⟨fuel, rfl⟩ : ∃ n, fuel = n + 1 := ⟨fuel - 1, by simp [scalar] at hfuel; omega⟩
  rfl

/-- The words `true` and `false` are read as they stand. -/
theorem gives_bool (b : Bool) : Gives follows levels (scalar (bool b)) (some (bool b)) := by
  intro fuel rest hfuel _
  cases b <;>
  · obtain ⟨fuel, rfl⟩ : ∃ n, fuel = n + 1 := ⟨fuel - 1, by simp [scalar] at hfuel; omega⟩
    rfl

/-- A number is read as its text is. -/
theorem readValue?_toText (n : Number) (fuel levels : Nat) {rest : List Char} (h : Stops rest) :
    readValue? (fuel + 1) levels (n.toText.toList ++ rest) =
      n.reread?.map fun n => (num n, rest) := by
  obtain ⟨c, cs, hcs, hc⟩ := n.toText_eq_cons
  have hread := n.readNumber?_toText_append h
  have hother : ∀ d ∈ ['n', 't', 'f', '"', '[', '\x7b'], c ≠ d := by
    rintro d hd rfl
    rcases hc with rfl | hc
    · exact absurd hd (by decide)
    · simp at hd
      rcases hd with rfl | rfl | rfl | rfl | rfl | rfl <;> cases hc
  have hblank : isSpace c = false := by
    rcases hc with rfl | hc
    · rfl
    · exact (isDigit_plain hc).1
  simp only [List.forall_mem_cons] at hother
  obtain ⟨h1, h2, h3, h4, h5, h6, -⟩ := hother
  rw [hcs, List.cons_append] at hread ⊢
  rw [readValue?, skipSpace_cons hblank]
  dsimp only
  rw [if_neg h1, if_neg h2, if_neg h3, if_neg h4, if_neg h5, if_neg h6, hread, Option.map_map]
  rfl

/-- A text is read as it was quoted. -/
theorem readValue?_quote (s : String) {fuel : Nat} (levels : Nat) (rest : List Char)
    (h : (quote s).length ≤ fuel) :
    readValue? (fuel + 1) levels (quote s ++ rest) = some (str s, rest) := by
  obtain ⟨cs, hquote, hread⟩ :=
    readText?_quote s rest (show (quote s).length < fuel + 1 + 2 by omega)
  rw [hquote, readValue?, skipSpace_cons rfl]
  dsimp only
  rw [if_neg (by decide), if_neg (by decide), if_neg (by decide), if_pos rfl, hread]
  rfl

/-- A quoted text is read in front of anything. -/
theorem gives_str (s : String) : Gives follows levels (scalar (str s)) (some (str s)) := by
  intro fuel rest hfuel _
  have hfuel : 2 * (quote s).length ≤ fuel := hfuel
  obtain ⟨fuel, rfl⟩ : ∃ n, fuel = n + 1 := ⟨fuel - 1, by simp [quote] at hfuel; omega⟩
  exact readValue?_quote s levels rest (by omega)

/-- A number is read as its text is, in front of what could not be a part of it. -/
theorem gives_num (hstops : ∀ cs, follows cs → Stops cs) (n : Number) :
    Gives follows levels (scalar (num n)) (n.reread?.map num) := by
  intro fuel rest hfuel h
  obtain ⟨c, cs, hcs, -⟩ := n.toText_eq_cons
  have hchars : (scalar (num n)).length = cs.length + 1 := congrArg List.length hcs
  obtain ⟨fuel, rfl⟩ : ∃ n, fuel = n + 1 := ⟨fuel - 1, by omega⟩
  show readValue? (fuel + 1) levels (n.toText.toList ++ rest) = _
  rw [readValue?_toText _ _ _ (hstops rest h), Option.map_map]
  rfl

end Scalars

/-! ### Items and members -/

/-- Further elements, each behind a comma and blanks.  The first one has no
comma, so it is told apart. -/
def listed (gap : List Char) (texts : List (List Char)) : List Char :=
  texts.flatMap fun cs => ',' :: (gap ++ cs)

/-- The first of further elements stands behind a comma and blanks, and the
others behind it. -/
theorem listed_cons (gap cs : List Char) (texts : List (List Char)) :
    listed gap (cs :: texts) = ',' :: (gap ++ (cs ++ listed gap texts)) := by
  unfold listed
  rw [List.flatMap_cons, List.cons_append, List.append_assoc]

/-- The blanks that are written in front of elements, behind the colon of a
member and in front of a closing bracket, and what may follow a value there.
The compact and the pretty form differ in these alone, so reading them back is
shown once for both. -/
structure Spacing where
  element : List Char
  value : List Char
  closing : List Char
  follows : List Char → Prop
  blank_element : Blank element
  blank_value : Blank value
  blank_closing : Blank closing
  follows_comma : ∀ cs, follows (',' :: cs)
  follows_closing : ∀ c cs, c = ']' ∨ c = '\x7d' → follows (closing ++ c :: cs)

namespace Spacing

variable (sp : Spacing) {levels : Nat} {chars : Json → List Char} {back : Json → Option Json}

/-- A member: its name, a colon and its value. -/
def member (chars : Json → List Char) (e : String × Json) : List Char :=
  quote e.1 ++ (':' :: (sp.value ++ chars e.2))

/-- The items of an array are read one after the other. -/
theorem readItems?_listed {j : Json} {items : List Json}
    (hj : Gives sp.follows levels (chars j) (back j))
    (h : ∀ x ∈ items, Gives sp.follows levels (chars x) (back x)) (done : List Json) {fuel : Nat}
    (rest : List Char)
    (hfuel : 2 * (chars j ++ listed sp.element (items.map chars)).length + 1 ≤ fuel) :
    readItems? fuel levels done
        (chars j ++ (listed sp.element (items.map chars) ++ (sp.closing ++ ']' :: rest))) =
      ((j :: items).mapM back).map fun js => (done.reverse ++ js, rest) := by
  induction items generalizing j done fuel with
  | nil =>
    obtain ⟨fuel, rfl⟩ : ∃ n, fuel = n + 1 := ⟨fuel - 1, by omega⟩
    rw [List.length_append] at hfuel
    show readItems? (fuel + 1) levels done (chars j ++ (sp.closing ++ ']' :: rest)) = _
    rw [readItems?, hj fuel _ (by omega) (sp.follows_closing _ _ (.inl rfl)), mapM_cons_eq]
    cases back j with
    | none => rfl
    | some j' =>
      dsimp only [Option.map_some]
      rw [sp.blank_closing.skipSpace, skipSpace_cons rfl, List.reverse_cons]
      rfl
  | cons next items ih =>
    obtain ⟨hnext, hitems⟩ := List.forall_mem_cons.1 h
    obtain ⟨fuel, rfl⟩ : ∃ n, fuel = n + 1 := ⟨fuel - 1, by omega⟩
    rw [List.map_cons, listed_cons] at hfuel ⊢
    simp only [List.length_append, List.length_cons] at hfuel
    have hlen : 2 * (chars next ++ listed sp.element (items.map chars)).length + 1 ≤ fuel := by
      rw [List.length_append]
      omega
    rw [List.cons_append, List.append_assoc, List.append_assoc, readItems?,
      hj fuel _ (by omega) (sp.follows_comma _), mapM_cons_eq]
    cases back j with
    | none => rfl
    | some j' =>
      dsimp only [Option.map_some]
      rw [skipSpace_cons rfl]
      show readItems? fuel levels (j' :: done) _ = _
      rw [sp.blank_element.readItems?, ih hnext hitems (j' :: done) hlen, Option.bind_some,
        Option.map_map]
      simp only [List.reverse_cons, List.append_assoc]
      rfl

/-- One member is read, and what follows it says whether there are more. -/
theorem readMembers?_member {e : String × Json}
    (he : Gives sp.follows levels (chars e.2) (back e.2)) (done : List (String × Json))
    {fuel : Nat} {after : List Char} (h : sp.follows after)
    (hfuel : 2 * (sp.member chars e).length ≤ fuel + 1) :
    readMembers? (fuel + 1) levels done (sp.member chars e ++ after) =
      (back e.2).bind fun v =>
        match skipSpace after with
        | ',' :: rest => readMembers? fuel levels ((e.1, v) :: done) rest
        | '\x7d' :: rest => some (((e.1, v) :: done).reverse, rest)
        | _ => none := by
  unfold member at hfuel ⊢
  simp only [List.length_append, List.length_cons] at hfuel
  obtain ⟨cs, hquote, hread⟩ := readText?_quote e.1 (':' :: (sp.value ++ chars e.2) ++ after)
    (show (quote e.1).length < fuel + 1 + 2 by omega)
  rw [List.append_assoc, hquote, readMembers?, skipSpace_cons rfl]
  simp only [hread]
  rw [List.cons_append, skipSpace_cons rfl, List.append_assoc]
  simp only [sp.blank_value.readValue?, he fuel after (by omega) h]
  cases back e.2 <;> rfl

/-- The members of an object are read one after the other. -/
theorem readMembers?_listed {e : String × Json} {members : List (String × Json)}
    (he : Gives sp.follows levels (chars e.2) (back e.2))
    (h : ∀ x ∈ members, Gives sp.follows levels (chars x.2) (back x.2))
    (done : List (String × Json)) {fuel : Nat} (rest : List Char)
    (hfuel : 2 * (sp.member chars e ++
      listed sp.element (members.map (sp.member chars))).length ≤ fuel) :
    readMembers? fuel levels done (sp.member chars e ++
        (listed sp.element (members.map (sp.member chars)) ++ (sp.closing ++ '\x7d' :: rest))) =
      ((e :: members).mapM fun x => (back x.2).map (x.1, ·)).map
        fun ms => (done.reverse ++ ms, rest) := by
  have hsome : ∀ e, 0 < (sp.member chars e).length := fun e => by simp [member]
  rw [List.length_append] at hfuel
  induction members generalizing e done fuel with
  | nil =>
    have hone := hsome e
    obtain ⟨fuel, rfl⟩ : ∃ n, fuel = n + 1 := ⟨fuel - 1, by omega⟩
    show readMembers? (fuel + 1) levels done
      (sp.member chars e ++ (sp.closing ++ '\x7d' :: rest)) = _
    rw [sp.readMembers?_member he done (sp.follows_closing _ _ (.inr rfl)) (by omega),
      mapM_cons_eq]
    cases back e.2 with
    | none => rfl
    | some v =>
      dsimp only [Option.bind_some]
      rw [sp.blank_closing.skipSpace, skipSpace_cons rfl, List.reverse_cons]
      rfl
  | cons next members ih =>
    obtain ⟨hnext, hmembers⟩ := List.forall_mem_cons.1 h
    have hone := hsome e
    obtain ⟨fuel, rfl⟩ : ∃ n, fuel = n + 1 := ⟨fuel - 1, by omega⟩
    rw [List.map_cons, listed_cons] at hfuel ⊢
    simp only [List.length_append, List.length_cons] at hfuel
    rw [List.cons_append, List.append_assoc, List.append_assoc,
      sp.readMembers?_member he done (sp.follows_comma _) (by omega), mapM_cons_eq]
    cases back e.2 with
    | none => rfl
    | some v =>
      dsimp only [Option.bind_some]
      rw [skipSpace_cons rfl]
      show readMembers? fuel levels ((e.1, v) :: done) _ = _
      rw [sp.blank_element.readMembers?,
        ih hnext hmembers ((e.1, v) :: done) (by omega), Option.map_some,
        Option.bind_some, Option.map_map]
      simp only [List.reverse_cons, List.append_assoc]
      rfl

end Spacing

/-! ### Arrays and objects -/

/-- Behind an opening bracket stand items, unless the array is closed at once. -/
theorem readValue?_bracket (fuel levels : Nat) {cs items : List Char} (hskip : skipSpace cs = items)
    (hopen : items.head? ≠ some ']') : readValue? (fuel + 1) (levels + 1) ('[' :: cs) =
      (readItems? fuel levels [] items).map fun (items, rest) => (arr items, rest) := by
  rw [readValue?, skipSpace_cons rfl]
  dsimp only
  rw [if_neg (by decide), if_neg (by decide), if_neg (by decide), if_neg (by decide), if_pos rfl,
    hskip]
  split
  · exact absurd rfl hopen
  · rfl

/-- Behind an opening brace stand members, unless the object is closed at once. -/
theorem readValue?_brace (fuel levels : Nat) {cs members : List Char}
    (hskip : skipSpace cs = members) (hopen : members.head? ≠ some '\x7d') :
    readValue? (fuel + 1) (levels + 1) ('\x7b' :: cs) =
      (readMembers? fuel levels [] members).map fun (ms, rest) => (obj ms, rest) := by
  rw [readValue?, skipSpace_cons rfl]
  dsimp only
  rw [if_neg (by decide), if_neg (by decide), if_neg (by decide), if_neg (by decide),
    if_neg (by decide), if_pos rfl, hskip]
  split
  · exact absurd rfl hopen
  · rfl

/-- What is quoted does not close an object. -/
theorem head?_quote_append (k : String) (rest : List Char) :
    (quote k ++ rest).head? ≠ some '\x7d' := by
  rw [quote, List.cons_append, List.cons_append, List.head?_cons]
  decide

namespace Spacing

variable (sp : Spacing) {follows : List Char → Prop} {levels : Nat} {chars : Json → List Char}
  {back : Json → Option Json}

/-- **An array is read if its items are.** The spaces between the elements are
those of either form, compact or in lines. -/
theorem gives_arr {j : Json} {items : List Json} (hopens : Opens (chars j))
    (h : ∀ x ∈ j :: items, Gives sp.follows levels (chars x) (back x)) :
    Gives follows (levels + 1)
      ('[' :: (sp.element ++ (chars j ++ (listed sp.element (items.map chars) ++
        (sp.closing ++ [']']))))) (((j :: items).mapM back).map arr) := by
  intro fuel rest hfuel _
  obtain ⟨hj, hitems⟩ := List.forall_mem_cons.1 h
  obtain ⟨c, cs, hcs, hblank, hbracket⟩ := hopens
  simp only [List.length_append, List.length_cons] at hfuel
  obtain ⟨fuel, rfl⟩ : ∃ n, fuel = n + 1 := ⟨fuel - 1, by omega⟩
  have hlen : 2 * (chars j ++ listed sp.element (items.map chars)).length + 1 ≤ fuel := by
    rw [List.length_append]
    omega
  have hread := sp.readItems?_listed hj hitems [] rest hlen
  have hskip : ∀ after, skipSpace (sp.element ++ (chars j ++ after)) = chars j ++ after := by
    intro after
    rw [sp.blank_element.skipSpace, hcs]
    exact skipSpace_cons hblank _
  have hopen : ∀ after, (chars j ++ after).head? ≠ some ']' := by
    rw [hcs]
    exact fun _ h => hbracket (Option.some.inj h)
  simp only [List.cons_append, List.append_assoc, List.nil_append]
  rw [readValue?_bracket fuel levels (hskip _) (hopen _), hread, Option.map_map, Option.map_map]
  rfl

/-- **An object is read if its values are.** Its keys are texts, which are read
as they were quoted. -/
theorem gives_obj {e : String × Json} {members : List (String × Json)}
    (h : ∀ x ∈ e :: members, Gives sp.follows levels (chars x.2) (back x.2)) :
    Gives follows (levels + 1)
      ('\x7b' :: (sp.element ++ (sp.member chars e ++
        (listed sp.element (members.map (sp.member chars)) ++ (sp.closing ++ ['\x7d'])))))
      (((e :: members).mapM fun x => (back x.2).map (x.1, ·)).map obj) := by
  intro fuel rest hfuel _
  obtain ⟨he, hmembers⟩ := List.forall_mem_cons.1 h
  simp only [List.length_append, List.length_cons] at hfuel
  obtain ⟨fuel, rfl⟩ : ∃ n, fuel = n + 1 := ⟨fuel - 1, by omega⟩
  have hlen : 2 * (sp.member chars e ++
      listed sp.element (members.map (sp.member chars))).length ≤ fuel := by
    rw [List.length_append]
    omega
  have hread := sp.readMembers?_listed he hmembers [] rest hlen
  have hskip : ∀ after,
      skipSpace (sp.element ++ (sp.member chars e ++ after)) = sp.member chars e ++ after := by
    intro after
    rw [sp.blank_element.skipSpace]
    exact skipSpace_cons rfl _
  have hopen : ∀ after, (sp.member chars e ++ after).head? ≠ some '\x7d' := by
    intro after
    rw [member, List.append_assoc]
    exact head?_quote_append e.1 _
  simp only [List.cons_append, List.append_assoc, List.nil_append]
  rw [readValue?_brace fuel levels (hskip _) (hopen _), hread, Option.map_map, Option.map_map]
  rfl

end Spacing
end Json
end LedgerRules
