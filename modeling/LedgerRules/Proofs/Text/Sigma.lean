/-
# The lowercase of a part of a text

A text is lowercased character by character, and only the capital sigma looks
around itself: it is `ς` after a letter and before none, and `σ` everywhere
else.  So the lowercase of a value that stands in a longer text is the lowercase
of the value alone, as long as no character around it changes the form of a
sigma in it.

A sigma asks for the nearest character on either side that is not skipped.
Where the value has such a character on the side in question, or where the other
side decides the form already, nothing outside the value matters: the value is
*firm* at that end (`firmAtStart`, `firmAtEnd`).  A letter `a` put in front of a
value that is not firm, or behind it, changes its lowercase, so a firm value is
exactly one whose lowercase is found again in the lowercase of every text that
holds it (`firm_iff_infix`).  At the start or the end of a text only one side is
open (`firmAtEnd_iff_prefix`, `firmAtStart_iff_suffix`).
-/

import LedgerRules.Text.Case
import Mathlib.Data.List.Infix

namespace LedgerRules
namespace Text

/-- The lowercase of `cs` where `before` (nearest first) precedes it and `after`
follows.  It is that part of the lowercase of the whole text. -/
def lowerWithin (before after : List Char) : List Char → List Char
  | [] => []
  | c :: rest =>
    (if c = 'Σ' then [lowerSigma before (rest ++ after)] else lowerChar c) ++
      lowerWithin (c :: before) after rest

/-- The lowercase of a text in two parts, where the second one is seen by the
first and the other way round. -/
theorem lowerAfter_append (before cs after : List Char) : lowerAfter before (cs ++ after) =
    lowerWithin before after cs ++ lowerAfter (cs.reverse ++ before) after := by
  induction cs generalizing before with
  | nil => rfl
  | cons c rest ih =>
    rw [List.cons_append, lowerAfter, ih, lowerWithin, List.append_assoc, List.reverse_cons,
      List.append_assoc]
    rfl

/-- The lowercase of a text behind something is its lowercase with nothing
following. -/
theorem lowerAfter_eq (before cs : List Char) :
    lowerAfter before cs = lowerWithin before [] cs := by
  have h := lowerAfter_append before cs []
  rwa [List.append_nil, lowerAfter, List.append_nil] at h

/-- The lowercase of a text is its lowercase with nothing around it. -/
theorem lowerChars_eq (cs : List Char) : lowerChars cs = lowerWithin [] [] cs := lowerAfter_eq [] cs

/-- The lowercase of a text in three parts. -/
theorem lowerChars_append (start cs tail : List Char) : lowerChars (start ++ cs ++ tail) =
    lowerWithin [] (cs ++ tail) start ++ lowerWithin start.reverse tail cs ++
      lowerAfter (cs.reverse ++ start.reverse) tail := by
  unfold lowerChars
  rw [List.append_assoc, lowerAfter_append, lowerAfter_append, List.append_nil, List.append_assoc]

/-- How long the lowercase is does not depend on what stands around. -/
theorem length_lowerWithin (before after cs : List Char) :
    (lowerWithin before after cs).length = (lowerChars cs).length := by
  have h : ∀ before' after', (lowerWithin before after cs).length =
      (lowerWithin before' after' cs).length := by
    induction cs generalizing before with
    | nil => exact fun _ _ => rfl
    | cons c rest ih =>
      intro before' after'
      unfold lowerWithin
      rw [List.length_append, List.length_append, ih (c :: before) (c :: before') after']
      split <;> rfl
  rw [lowerChars_eq]
  exact h [] []

/-! ### What a sigma asks for -/

/-- Whether a list has a character that is not skipped in the search for a
letter.  Marks and apostrophes are skipped; behind them the search goes on
outside of the list. -/
def decidesCase (cs : List Char) : Bool := cs.any (!isCaseIgnorable ·)

/-- What comes behind a character that is not skipped does not matter. -/
theorem startsCased_append (cs more : List Char) : startsCased (cs ++ more) =
    if decidesCase cs then startsCased cs else startsCased more := by
  unfold startsCased decidesCase
  induction cs with
  | nil => rfl
  | cons c cs ih =>
    rw [List.cons_append, List.dropWhile_cons, List.dropWhile_cons, List.any_cons]
    cases isCaseIgnorable c with
    | true => simpa using ih
    | false => rfl

/-- A letter is a character that is not skipped. -/
theorem decidesCase_of_startsCased {cs : List Char} (h : startsCased cs = true) :
    decidesCase cs = true := by
  by_contra hno
  have hnil := startsCased_append cs []
  rw [List.append_nil, if_neg hno, h] at hnil
  cases hnil

/-- A sigma is a final one if a letter stands before it and none behind it, what
is skipped aside. -/
theorem lowerSigma_eq_final {before after : List Char} : lowerSigma before after = 'ς' ↔
    startsCased before = true ∧ startsCased after = false := by
  unfold lowerSigma
  split
  · rename_i h
    simpa using h
  · rename_i h
    rw [Bool.and_eq_true, Bool.not_eq_true'] at h
    exact iff_of_false (by decide) h

/-- A sigma has the one form or the other. -/
theorem lowerSigma_congr {before after before' after' : List Char}
    (h : (startsCased before = true ∧ startsCased after = false) ↔
      startsCased before' = true ∧ startsCased after' = false) :
    lowerSigma before after = lowerSigma before' after' := by
  have hform : ∀ b a, lowerSigma b a = 'ς' ∨ lowerSigma b a = 'σ' := by
    intro b a
    unfold lowerSigma
    split
    · exact .inl rfl
    · exact .inr rfl
  rw [← lowerSigma_eq_final, ← lowerSigma_eq_final] at h
  rcases hform before after with hb | hb <;> rcases hform before' after' with hb' | hb' <;>
    simp_all

/-- The letter that is put next to a value to change a sigma in it is one with
case. -/
theorem startsCased_letter : startsCased ['a'] = true := by decide +kernel

/-- It is its own lowercase. -/
theorem lowerChar_letter : lowerChar 'a' = ['a'] := by decide +kernel

/-! ### Firm values -/

/-- No character in front of `cs` changes the form of a sigma in it; `before`
(nearest first) is what precedes it already. -/
def firmAtStart (before : List Char) : List Char → Bool
  | [] => true
  | c :: rest => (c != 'Σ' || decidesCase before || startsCased rest) &&
    firmAtStart (c :: before) rest

/-- No character behind `cs` changes the form of a sigma in it.  Then what
stands there has the same lowercase in every longer text. -/
def firmAtEnd (before : List Char) : List Char → Bool
  | [] => true
  | c :: rest =>
    (c != 'Σ' || !startsCased before || decidesCase rest) && firmAtEnd (c :: before) rest

/-- **What precedes a value that is firm at its start does not matter.** Only a
sigma looks at what precedes it, past characters that do not count. -/
theorem lowerWithin_of_firmAtStart {before cs : List Char} (h : firmAtStart before cs = true)
    (outer after : List Char) :
    lowerWithin (before ++ outer) after cs = lowerWithin before after cs := by
  induction cs generalizing before with
  | nil => rfl
  | cons c rest ih =>
    rw [firmAtStart, Bool.and_eq_true] at h
    obtain ⟨hc, hrest⟩ := h
    unfold lowerWithin
    rw [← List.cons_append, ih hrest]
    split
    · rename_i hsigma
      have hsame : lowerSigma (before ++ outer) (rest ++ after) =
          lowerSigma before (rest ++ after) := by
        refine lowerSigma_congr ?_
        rw [startsCased_append before, startsCased_append rest]
        by_cases hb : decidesCase before = true
        · rw [if_pos hb]
        · -- Only a letter behind it can decide the form.
          have hr : startsCased rest = true := by simpa [hsigma, hb] using hc
          rw [if_pos (decidesCase_of_startsCased hr), hr]
          simp
      rw [hsame]
    · rfl

/-- **What follows a value that is firm at its end does not matter.** Only a
sigma looks at what follows it, past characters that do not count. -/
theorem lowerWithin_of_firmAtEnd {before cs : List Char} (h : firmAtEnd before cs = true)
    (after : List Char) : lowerWithin before after cs = lowerWithin before [] cs := by
  induction cs generalizing before with
  | nil => rfl
  | cons c rest ih =>
    rw [firmAtEnd, Bool.and_eq_true] at h
    obtain ⟨hc, hrest⟩ := h
    unfold lowerWithin
    rw [ih hrest, List.append_nil]
    split
    · rename_i hsigma
      have hsame : lowerSigma before (rest ++ after) = lowerSigma before rest := by
        refine lowerSigma_congr ?_
        rw [startsCased_append rest]
        by_cases hr : decidesCase rest = true
        · rw [if_pos hr]
        · have hb : startsCased before = false := by simpa [hsigma, hr] using hc
          rw [hb]
          simp
      rw [hsame]
    · rfl

/-- A letter in front of a value that is not firm at its start changes its
lowercase. -/
theorem firmAtStart_of_letter {before cs : List Char}
    (h : lowerWithin (before ++ ['a']) [] cs = lowerWithin before [] cs) :
    firmAtStart before cs = true := by
  induction cs generalizing before with
  | nil => rfl
  | cons c rest ih =>
    unfold lowerWithin at h
    rw [List.append_nil, ← List.cons_append] at h
    rw [firmAtStart, Bool.and_eq_true]
    split at h
    · rename_i hsigma
      obtain ⟨hform, hrest⟩ := List.cons.inj h
      refine ⟨?_, ih hrest⟩
      by_contra hno
      obtain ⟨hb, hr⟩ : decidesCase before = false ∧ startsCased rest = false := by
        simpa [hsigma] using hno
      have hfinal : lowerSigma (before ++ ['a']) rest = 'ς' := by
        rw [lowerSigma_eq_final, startsCased_append, hb, if_neg Bool.false_ne_true, hr]
        exact ⟨startsCased_letter, rfl⟩
      have hbefore := (lowerSigma_eq_final.1 (hform.symm.trans hfinal)).1
      rw [decidesCase_of_startsCased hbefore] at hb
      cases hb
    · rename_i hsigma
      exact ⟨by simp [hsigma], ih (List.append_cancel_left h)⟩

/-- A letter behind a value that is not firm at its end changes its lowercase. -/
theorem firmAtEnd_of_letter {before cs : List Char}
    (h : lowerWithin before ['a'] cs = lowerWithin before [] cs) : firmAtEnd before cs = true := by
  induction cs generalizing before with
  | nil => rfl
  | cons c rest ih =>
    unfold lowerWithin at h
    rw [List.append_nil] at h
    rw [firmAtEnd, Bool.and_eq_true]
    split at h
    · rename_i hsigma
      obtain ⟨hform, hrest⟩ := List.cons.inj h
      refine ⟨?_, ih hrest⟩
      by_contra hno
      obtain ⟨hb, hr⟩ : startsCased before = true ∧ decidesCase rest = false := by
        simpa [hsigma] using hno
      have hfinal : lowerSigma before rest = 'ς' := by
        rw [lowerSigma_eq_final]
        refine ⟨hb, ?_⟩
        by_contra hcased
        rw [decidesCase_of_startsCased (by simpa using hcased)] at hr
        cases hr
      have hafter := (lowerSigma_eq_final.1 (hform.trans hfinal)).2
      rw [startsCased_append, hr, if_neg Bool.false_ne_true, startsCased_letter] at hafter
      cases hafter
    · rename_i hsigma
      exact ⟨by simp [hsigma], ih (List.append_cancel_left h)⟩

/-! ### Where a value is found again -/

/-- **Exactly a value that is firm at its end is found again at the start of
every text that begins with it.** -/
theorem firmAtEnd_iff_prefix {v : List Char} : firmAtEnd [] v = true ↔
    ∀ cs, v <+: cs → lowerChars v <+: lowerChars cs := by
  constructor
  · rintro h _ ⟨tail, rfl⟩
    have hparts := lowerChars_append [] v tail
    rw [List.nil_append, List.reverse_nil, lowerWithin_of_firmAtEnd h, ← lowerChars_eq] at hparts
    rw [hparts]
    exact List.prefix_append _ _
  · intro h
    have hparts := lowerChars_append [] v ['a']
    have hfound := h (v ++ ['a']) (List.prefix_append _ _)
    rw [List.nil_append, List.reverse_nil] at hparts
    rw [hparts] at hfound
    have hsame : lowerChars v = lowerWithin [] ['a'] v :=
      (List.prefix_of_prefix_length_le hfound (List.prefix_append _ _)
        (length_lowerWithin ..).ge).eq_of_length (length_lowerWithin ..).symm
    exact firmAtEnd_of_letter (hsame.symm.trans (lowerChars_eq v))

/-- **Exactly a value that is firm at its start is found again at the end of
every text that ends with it.** -/
theorem firmAtStart_iff_suffix {v : List Char} : firmAtStart [] v = true ↔
    ∀ cs, v <:+ cs → lowerChars v <:+ lowerChars cs := by
  have hparts : ∀ start, lowerChars (start ++ v) =
      lowerWithin [] v start ++ lowerWithin start.reverse [] v := by
    intro start
    have h := lowerChars_append start v []
    rwa [List.append_nil, List.append_nil, lowerAfter, List.append_nil] at h
  constructor
  · rintro h _ ⟨start, rfl⟩
    rw [hparts, ← List.nil_append start.reverse, lowerWithin_of_firmAtStart h, ← lowerChars_eq]
    exact List.suffix_append _ _
  · intro h
    have hfound := h (['a'] ++ v) (List.suffix_append _ _)
    rw [hparts] at hfound
    have hsame : lowerChars v = lowerWithin ['a'] [] v :=
      (List.suffix_of_suffix_length_le hfound (List.suffix_append _ _)
        (length_lowerWithin ..).ge).eq_of_length (length_lowerWithin ..).symm
    exact firmAtStart_of_letter (hsame.symm.trans (lowerChars_eq v))

/-- A list that is moved on by one place when a letter is put behind it repeats
that letter. -/
theorem eq_of_concat_eq_cons {α : Type} {a b : α} {cs : List α} (h : cs ++ [a] = b :: cs) :
    a = b ∧ ∀ c ∈ cs, c = a := by
  induction cs generalizing b with
  | nil => exact ⟨(List.cons.inj h).1, fun c hc => absurd hc List.not_mem_nil⟩
  | cons c cs ih =>
    obtain ⟨rfl, hcs⟩ := List.cons.inj h
    obtain ⟨rfl, hall⟩ := ih hcs
    exact ⟨rfl, List.forall_mem_cons.2 ⟨rfl, hall⟩⟩

/-- The two forms of a small sigma as one.  They are all that a neighbour can
change. -/
def mergeSigma (c : Char) : Char := if c = 'ς' then 'σ' else c

/-- Up to the form of its sigmas the lowercase does not depend on what stands
around. -/
theorem map_mergeSigma_lowerWithin (before after cs : List Char) :
    (lowerWithin before after cs).map mergeSigma = (lowerChars cs).map mergeSigma := by
  have hsigma : ∀ b a, mergeSigma (lowerSigma b a) = 'σ' := by
    intro b a
    unfold lowerSigma
    split <;> rfl
  have hany : ∀ before' after', (lowerWithin before after cs).map mergeSigma =
      (lowerWithin before' after' cs).map mergeSigma := by
    induction cs generalizing before with
    | nil => exact fun _ _ => rfl
    | cons c rest ih =>
      intro before' after'
      unfold lowerWithin
      rw [List.map_append, List.map_append, ih (c :: before) (c :: before')]
      split
      · rw [List.map_singleton, List.map_singleton, hsigma, hsigma]
      · rfl
  rw [lowerChars_eq]
  exact hany [] []

/-- Lowercases of one value that are all `a` but for the form of sigmas are the
same. -/
theorem eq_of_mergeSigma {low low' : List Char} (h : low.map mergeSigma = low'.map mergeSigma)
    (ha : ∀ c ∈ low.map mergeSigma, c = 'a') : low = low' := by
  have hletter : ∀ l : List Char, (∀ c ∈ l.map mergeSigma, c = 'a') →
      l = List.replicate l.length 'a' := by
    intro l hl
    refine List.eq_replicate_iff.2 ⟨rfl, fun c hc => ?_⟩
    have hc := hl _ (List.mem_map_of_mem hc)
    unfold mergeSigma at hc
    split at hc
    · exact absurd hc (by decide)
    · exact hc
  have hlength : low.length = low'.length := by simpa using congrArg List.length h
  rw [hletter low ha, hletter low' (h ▸ ha), hlength]

/-- A lowercase that is found with a letter in front of another of the same
value is the other: were it found one place further left, all its characters
would be that letter. -/
theorem eq_of_infix_cons {low low' : List Char} (h : low.map mergeSigma = low'.map mergeSigma)
    (hfound : low <:+: 'a' :: low') : low = low' := by
  have hlength : low.length = low'.length := by simpa using congrArg List.length h
  rcases List.infix_cons_iff.1 hfound with hleft | hin
  · obtain ⟨more, hmore⟩ := hleft
    obtain ⟨y, rfl⟩ : ∃ y, more = [y] := by
      refine List.length_eq_one_iff.1 ?_
      have := congrArg List.length hmore
      rw [List.length_append, List.length_cons] at this
      omega
    have hmap := congrArg (List.map mergeSigma) hmore
    rw [List.map_append, List.map_singleton, List.map_cons, ← h] at hmap
    obtain ⟨hy, hall⟩ := eq_of_concat_eq_cons hmap
    exact eq_of_mergeSigma h fun c hc => (hall c hc).trans hy
  · exact hin.eq_of_length hlength

/-- And so is one that is found with a letter behind another. -/
theorem eq_of_infix_concat {low low' : List Char} (h : low.map mergeSigma = low'.map mergeSigma)
    (hfound : low <:+: low' ++ ['a']) : low = low' := by
  have hlength : low.length = low'.length := by simpa using congrArg List.length h
  rcases List.infix_concat_iff.1 hfound with hright | hin
  · obtain ⟨more, hmore⟩ := hright
    obtain ⟨y, rfl⟩ : ∃ y, more = [y] := by
      refine List.length_eq_one_iff.1 ?_
      have := congrArg List.length hmore
      rw [List.length_append, List.length_append, List.length_singleton] at this
      omega
    have hmap := congrArg (List.map mergeSigma) hmore.symm
    rw [List.map_append, List.map_append, ← h] at hmap
    obtain ⟨-, hall⟩ := eq_of_concat_eq_cons hmap
    exact eq_of_mergeSigma h hall
  · exact hin.eq_of_length hlength

/-- **Exactly a value that is firm at both ends is found again in every text
that holds it.** That the others are not found is shown by the letter `a` in
front of the value or behind it. -/
theorem firm_iff_infix {v : List Char} : (firmAtStart [] v && firmAtEnd [] v) = true ↔
    ∀ cs, v <:+: cs → lowerChars v <:+: lowerChars cs := by
  rw [Bool.and_eq_true]
  constructor
  · rintro ⟨hstart, hend⟩ _ ⟨start, tail, rfl⟩
    have hparts := lowerChars_append start v tail
    rw [← List.nil_append start.reverse, lowerWithin_of_firmAtStart hstart,
      lowerWithin_of_firmAtEnd hend, ← lowerChars_eq] at hparts
    rw [hparts]
    exact ⟨_, _, rfl⟩
  · intro h
    have hmerge := fun before after => (map_mergeSigma_lowerWithin before after v).symm
    have hfront : lowerChars ('a' :: v) = 'a' :: lowerWithin ['a'] [] v := by
      rw [lowerChars_eq, lowerWithin, if_neg (by decide), lowerChar_letter]
      rfl
    have hback : lowerChars (v ++ ['a']) = lowerWithin [] ['a'] v ++ ['a'] := by
      rw [lowerChars, lowerAfter_append, lowerAfter, if_neg (by decide), lowerChar_letter]
      rfl
    constructor
    · have hfound := h ('a' :: v) (List.suffix_cons _ _).isInfix
      rw [hfront] at hfound
      exact firmAtStart_of_letter ((eq_of_infix_cons (hmerge _ _) hfound).symm.trans
        (lowerChars_eq v))
    · have hfound := h (v ++ ['a']) (List.prefix_append _ _).isInfix
      rw [hback] at hfound
      exact firmAtEnd_of_letter ((eq_of_infix_concat (hmerge _ _) hfound).symm.trans
        (lowerChars_eq v))

end Text
end LedgerRules
