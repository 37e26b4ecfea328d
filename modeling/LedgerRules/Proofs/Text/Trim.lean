/-
# Trimmed texts

A text is trimmed if it has a character and neither its first nor its last one
is a blank.  What `Text.trim` leaves of a text is trimmed unless nothing is
left: the cut at the front stops at a character that is no blank, and what the
cut at the back leaves still begins with it.  The texts that are trimmed are the
ones that `Text.trim` has nothing to do with.
-/

import LedgerRules.Transaction
import Mathlib.Data.List.DropRight

namespace LedgerRules
namespace Text

/-- A text that is not empty and has no blank at either end.  Names, currencies
and merchants of stored records are trimmed. -/
structure Trimmed (s : String) : Prop where
  nonempty : s ≠ ""
  front : ∀ c ∈ s.toList.head?, isBlank c = false
  back : ∀ c ∈ s.toList.getLast?, isBlank c = false

/-- Trimming takes blanks off the front and then off the back. -/
theorem toList_trim (s : String) :
    (trim s).toList = (s.toList.dropWhile isBlank).rdropWhile isBlank :=
  String.toList_ofList

/-- What is left of a text is trimmed, if anything is. -/
theorem trimmed_trim {s : String} (h : trim s ≠ "") : Trimmed (trim s) := by
  refine ⟨h, fun c hc => ?_, fun c hc => ?_⟩
  · rw [toList_trim] at hc
    obtain ⟨cut, hcut⟩ := List.rdropWhile_prefix isBlank (s.toList.dropWhile isBlank)
    have hhead := List.head?_dropWhile_not isBlank s.toList
    rw [← hcut, List.head?_append, Option.mem_def.1 hc] at hhead
    exact hhead
  · rw [toList_trim] at hc
    obtain ⟨hne, rfl⟩ := List.mem_getLast?_eq_getLast hc
    exact Bool.eq_false_iff.2 (List.rdropWhile_last_not isBlank _ hne)

/-- **A text is trimmed if and only if it is not empty and trimming leaves it
alone.** In this form it is found out by computing. -/
theorem trimmed_iff {s : String} : Trimmed s ↔ s ≠ "" ∧ trim s = s := by
  constructor
  · intro h
    refine ⟨h.nonempty, String.toList_inj.1 ?_⟩
    have hfront : s.toList.dropWhile isBlank = s.toList := by
      refine List.dropWhile_eq_self_iff.2 fun hl hb => ?_
      rw [h.front _ (List.head?_eq_getElem? ▸ List.getElem?_eq_getElem hl)] at hb
      exact Bool.noConfusion hb
    rw [toList_trim, hfront]
    refine List.rdropWhile_eq_self_iff.2 fun hl hb => ?_
    rw [h.back _ (List.getLast?_eq_some_getLast hl)] at hb
    exact Bool.noConfusion hb
  · rintro ⟨hne, he⟩
    exact he ▸ trimmed_trim (he.symm ▸ hne)

/-- A text whose trimmed form is not blank is left with something. -/
theorem trimmed_of_not_isBlankText {s : String} (h : isBlankText (trim s) = false) :
    Trimmed (trim s) := by
  refine trimmed_trim fun he => ?_
  rw [he] at h
  exact Bool.noConfusion h

/-- A trimmed text is not blank: its first character is none. -/
theorem Trimmed.not_isBlankText {s : String} (h : Trimmed s) : isBlankText s = false := by
  cases hs : s.toList with
  | nil => exact absurd (String.toList_eq_nil_iff.1 hs) h.nonempty
  | cons c rest =>
    have hc := h.front c (by rw [hs]; rfl)
    unfold isBlankText
    rw [hs, List.all_cons, hc, Bool.false_and]

end Text

/-- A merchant that is kept is trimmed. -/
theorem trimmed_of_normalizeMerchant {merchant : Option String} {m : String}
    (h : normalizeMerchant merchant = some m) : Text.Trimmed m := by
  obtain ⟨h, hne⟩ := Option.filter_eq_some_iff.1 h
  obtain ⟨s, -, rfl⟩ := Option.map_eq_some_iff.1 h
  exact Text.trimmed_trim (bne_iff_ne.1 hne)

end LedgerRules
