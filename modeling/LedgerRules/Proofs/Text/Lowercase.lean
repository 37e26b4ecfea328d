/-
# Lowercase texts stay as they are

The lowercase of a text consists of characters that are their own lowercase, so
taking it a second time changes nothing.  For a mapped character this is a fact
about the table: no row leads to a number that some row maps again
(`images_left_alone`).  A sigma is no capital afterwards, whatever stands around
it, so its neighbours do not matter the second time.
-/

import LedgerRules.Text.Case

namespace LedgerRules
namespace Text

/-- What a mapping table says of one run of numbers: the first and the last of
them, the distance between two of them, and how far they are moved. -/
abbrev Row := Nat × Nat × Nat × Int

namespace Row

/-- A row maps a number. -/
def Maps (row : Row) (n : Nat) : Prop :=
  row.1 ≤ n ∧ n ≤ row.2.1 ∧ (n - row.1) % row.2.2.1 = 0

/-- Where a row leads. -/
def image (row : Row) (n : Nat) : Nat := (n + row.2.2.2).toNat

/-- A test that no number a row leads to is mapped by another row: the image
ends before the other row, begins behind it, or falls between its numbers, which
go in steps of two. -/
def leavesAlone (row other : Row) : Bool :=
  Nat.blt (row.image row.2.1) other.1 || Nat.blt other.2.1 (row.image row.1) ||
    (Nat.beq other.2.2.1 2 && (Nat.beq row.2.2.1 2 || Nat.beq row.1 row.2.1) &&
      Nat.blt 0 (row.image row.1) && Nat.beq ((row.image row.1 + other.1) % 2) 1)

/-- The test says what it should: where a row leads, no other row maps. -/
theorem not_maps_image {row other : Row} (h : row.leavesAlone other = true) {n : Nat}
    (hn : row.Maps n) : ¬other.Maps (row.image n) := by
  obtain ⟨lo, hi, step, shift⟩ := row
  obtain ⟨lo', hi', step', shift'⟩ := other
  unfold leavesAlone at h
  unfold Maps image at *
  simp only [Bool.or_eq_true, Bool.and_eq_true, Nat.blt_eq, Nat.beq_eq] at h hn ⊢
  obtain ⟨hlo, hhi, hstep⟩ := hn
  rintro ⟨hlo', hhi', hstep'⟩
  rcases h with (h | h) | ⟨⟨⟨rfl, hone⟩, hpos⟩, hodd⟩
  · omega
  · omega
  · rcases hone with rfl | rfl
    · omega
    · omega

end Row

/-- What a table maps stands in one of its rows. -/
theorem exists_row_of_shiftOf? {runs : List Row} {n : Nat} {shift : Int}
    (h : shiftOf? runs n = some shift) : ∃ row ∈ runs, row.Maps n ∧ row.2.2.2 = shift := by
  obtain ⟨row, hrow, hshift⟩ := Option.map_eq_some_iff.1 h
  have hin := List.find?_some hrow
  simp only [Bool.and_eq_true, decide_eq_true_eq, beq_iff_eq] at hin
  exact ⟨row, List.mem_of_find?_eq_some hrow, ⟨hin.1.1, hin.1.2, hin.2⟩, hshift⟩

/-- No row of the lowercase table leads to what some row maps, so applying the
table twice is applying it once. -/
theorem images_left_alone : CaseTable.lowerRuns.all (fun row =>
    CaseTable.lowerRuns.all fun other => Row.leavesAlone row other) = true := by
  decide +kernel

/-- No row of the lowercase table leads to `İ`. -/
theorem images_miss_dotted : CaseTable.lowerRuns.all (fun row =>
    Row.leavesAlone row ('İ'.toNat, 'İ'.toNat, 1, 0)) = true := by
  decide +kernel

/-- The lowercase table leaves a number alone, and it is not that of `İ`. -/
def IsFixed (n : Nat) : Prop := shiftOf? CaseTable.lowerRuns n = none ∧ n ≠ 'İ'.toNat

/-- What the lowercase table leads to is left alone. -/
theorem isFixed_of_shiftOf? {n : Nat} {shift : Int}
    (h : shiftOf? CaseTable.lowerRuns n = some shift) : IsFixed (n + shift).toNat := by
  obtain ⟨row, hrow, hn, rfl⟩ := exists_row_of_shiftOf? h
  constructor
  · refine Option.eq_none_iff_forall_ne_some.2 fun shift hs => ?_
    obtain ⟨other, hother, hmaps, -⟩ := exists_row_of_shiftOf? hs
    have hall := List.all_eq_true.1 images_left_alone row hrow
    exact Row.not_maps_image (List.all_eq_true.1 hall other hother) hn hmaps
  · intro he
    refine Row.not_maps_image (List.all_eq_true.1 images_miss_dotted row hrow) hn ?_
    show Row.Maps _ (n + row.2.2.2).toNat
    rw [he]
    exact ⟨Nat.le_refl _, Nat.le_refl _, rfl⟩

/-- A character that is its own lowercase.  Capital sigma is left out because
what becomes of it depends on its neighbours. -/
def Lowered (c : Char) : Prop := c ≠ 'Σ' ∧ lowerChar c = [c]

/-- A character that the table leaves alone is its own lowercase. -/
theorem lowered_of_isFixed {c : Char} (h : IsFixed c.toNat) : Lowered c := by
  obtain ⟨hnone, hne⟩ := h
  constructor
  · rintro rfl
    exact absurd hnone (by decide)
  · unfold lowerChar mapChar
    rw [if_neg fun hc => hne (congrArg Char.toNat hc), hnone]

/-- A character by its number, or the first one where there is none. -/
theorem toNat_ofNat (n : Nat) : (Char.ofNat n).toNat = n ∨ (Char.ofNat n).toNat = 0 := by
  by_cases h : n.isValidChar
  · refine .inl ?_
    rw [Char.ofNat, dif_pos h]
    rfl
  · refine .inr ?_
    rw [Char.ofNat, dif_neg h]
    rfl

/-- Where the table leads there are characters that are their own lowercase. -/
theorem lowered_mapChar {c : Char} (hc : c ≠ 'İ') : Lowered (mapChar CaseTable.lowerRuns c) := by
  refine lowered_of_isFixed ?_
  unfold mapChar
  split
  · rename_i shift h
    rcases toNat_ofNat (c.toNat + shift).toNat with he | he
    · rw [he]
      exact isFixed_of_shiftOf? h
    · rw [he]
      exact ⟨by decide, by decide⟩
  · rename_i h
    exact ⟨h, fun he => hc (Char.toNat_inj.1 he)⟩

/-- The lowercase of one character consists of characters that are their own. -/
theorem lowered_of_mem_lowerChar {c d : Char} (h : d ∈ lowerChar c) : Lowered d := by
  unfold lowerChar at h
  split at h
  · rcases List.mem_cons.1 h with rfl | h
    · exact lowered_of_isFixed ⟨by decide, by decide⟩
    · obtain rfl := List.mem_singleton.1 h
      exact lowered_of_isFixed ⟨by decide, by decide⟩
  · rename_i hc
    obtain rfl := List.mem_singleton.1 h
    exact lowered_mapChar hc

/-- Both small sigmas are their own lowercase. -/
theorem lowered_lowerSigma (before after : List Char) : Lowered (lowerSigma before after) := by
  unfold lowerSigma
  split <;> exact lowered_of_isFixed ⟨by decide, by decide⟩

/-- Every character of a lowercase text is its own lowercase. -/
theorem lowered_of_mem_lowerAfter {cs before : List Char} {d : Char}
    (h : d ∈ lowerAfter before cs) : Lowered d := by
  induction cs generalizing before with
  | nil => cases h
  | cons c rest ih =>
    unfold lowerAfter at h
    rcases List.mem_append.1 h with h | h
    · split at h
      · rw [List.mem_singleton.1 h]
        exact lowered_lowerSigma _ _
      · exact lowered_of_mem_lowerChar h
    · exact ih h

/-- Characters that are their own lowercase stay, whatever precedes them. -/
theorem lowerAfter_of_lowered {cs : List Char} (before : List Char) (h : ∀ c ∈ cs, Lowered c) :
    lowerAfter before cs = cs := by
  induction cs generalizing before with
  | nil => rfl
  | cons c rest ih =>
    obtain ⟨hc, hrest⟩ := List.forall_mem_cons.1 h
    unfold lowerAfter
    rw [if_neg hc.1, hc.2, ih _ hrest]
    rfl

/-- **The lowercase of a lowercase text is the text itself.** This is what makes
normal forms of rule bodies stay as they are. -/
theorem lower_lower (s : String) : lower (lower s) = lower s := by
  unfold lower lowerChars
  rw [String.toList_ofList, lowerAfter_of_lowered _ fun _ => lowered_of_mem_lowerAfter]

end Text
end LedgerRules
