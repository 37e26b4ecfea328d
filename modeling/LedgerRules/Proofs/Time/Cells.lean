/-
# Dates and times that cells give back

A cell keeps a date as it is, but the store reads it back from the text it
shows, and that text only serves for the years 1 to 9999: a year before them is
shown with a mark behind it, and a year past them has no cell.  A time is kept
in whole microseconds, and its date has to be one that is read back.  Such
values come back as they were (`Date.FitsCell.read`, `Instant.FitsCell.read`),
and cells are ordered as they are.
-/

import LedgerRules.Proofs.Text.Digits
import LedgerRules.Proofs.Time.Calendar
import LedgerRules.Store.Database.Row

namespace LedgerRules

/-! ### Dates -/

/-- The date has a year from 1 to 9999.  Past these years a cell holds no text
that is read back. -/
def Date.FitsCell (d : Date) : Prop := 1 ≤ d.civil.year ∧ d.civil.year ≤ 9999

instance : DecidablePred Date.FitsCell := fun _ => inferInstanceAs (Decidable (_ ∧ _))

namespace Date

variable {d : Date}

/-- Months and days have two digits at most. -/
theorem FitsCell.bounds (h : d.FitsCell) : d.civil.month ≤ 12 ∧ d.civil.day ≤ 31 := by
  have hmin : minYear ≤ d.civil.year := Int.le_trans (by decide) h.1
  have hmax : d.civil.year ≤ maxYear := Int.le_trans h.2 (by decide)
  have hcivil := ofCivil?_civil hmin hmax
  unfold ofCivil? at hcivil
  split at hcivil
  · rename_i hrange
    obtain ⟨-, -, -, hmonth, -, hday⟩ := hrange
    refine ⟨hmonth, Nat.le_trans hday ?_⟩
    unfold monthLength
    split_ifs <;> decide
  · cases hcivil

/-- A year of four digits is read as it was written. -/
theorem scanYear?_padded {n : Nat} (h : n < 10 ^ 4) (rest : List Char) :
    scanYear? (padded 4 n ++ rest) = some ((n : Int), rest) := by
  have hread := scanDigits?_padded h (by decide) rest
  unfold scanYear?
  rw [skipBlanks_padded]
  cases hp : padded 4 n with
  | nil =>
    have hlen := length_padded h (by decide)
    rw [hp] at hlen
    cases hlen
  | cons c cs =>
    have hc : c.isDigit = true := isDigit_padded (hp ▸ List.mem_cons_self)
    rw [hp] at hread
    rw [List.cons_append] at hread ⊢
    split
    · rename_i heq
      obtain ⟨rfl, -⟩ := List.cons.inj heq
      cases hc
    · rename_i heq
      obtain ⟨rfl, -⟩ := List.cons.inj heq
      cases hc
    · rw [hread, Option.map_some]

/-- **A date is read back from the text of its cell**, which has four digits for
the year and two each for the month and the day. -/
theorem FitsCell.parse?_cellText (h : d.FitsCell) : parse? false d.cellText = some d := by
  obtain ⟨hmonth, hday⟩ := h.bounds
  have hcivil : ofCivil? ⟨(d.civil.year.toNat : Int), d.civil.month, d.civil.day⟩ = some d := by
    rw [Int.toNat_of_nonneg (by have := h.1; omega)]
    exact ofCivil?_civil (Int.le_trans (by decide) h.1) (Int.le_trans h.2 (by decide))
  have hyear : d.civil.year.toNat < 10 ^ 4 := by
    have := h.2
    omega
  have hscan : scan? false d.cellChars = some (d, []) := by
    unfold cellChars
    dsimp only
    have hnot : ¬d.civil.year ≤ 0 := by
      have := h.1
      omega
    rw [if_neg hnot, if_neg hnot, List.append_nil, List.append_assoc]
    have htwo : ∀ n, n ≤ 31 → ∀ rest, scanNumber? 2 (padded 2 n ++ rest) = some (n, rest) :=
      fun n hn => scanNumber?_padded (by omega) (by decide)
    have hdayRead := htwo d.civil.day hday []
    rw [List.append_nil] at hdayRead
    unfold scan?
    rw [scanYear?_padded hyear]
    simp only [Option.bind_eq_bind, Option.bind_some, List.cons_append, scanMark?,
      Bool.false_eq_true, ↓reduceIte]
    rw [htwo d.civil.month (by omega)]
    simp only [Option.bind_some, ↓reduceIte]
    rw [hdayRead]
    simp only [Option.bind_some, hcivil]
    rfl
  unfold parse? cellText
  rw [String.toList_ofList, hscan]

/-- A date that has a cell is the one in it, and its year has four digits at
most. -/
theorem toCell?_eq_some {c : DateCell} (h : d.toCell? = some c) :
    c = .finite d ∧ d.civil.year ≤ 9999 := by
  unfold toCell? at h
  split at h
  · rename_i hyear
    exact ⟨(Option.some.inj h).symm, hyear⟩
  · cases h

/-- Such a date has a cell. -/
theorem FitsCell.toCell? (h : d.FitsCell) : d.toCell? = some (.finite d) := if_pos h.2

/-- It is read back from it. -/
theorem FitsCell.read (h : d.FitsCell) : readDate (.finite d) = .ok d := by
  have hcell : DateCell.read (.finite d) = .ok d := by
    unfold DateCell.read
    dsimp only [Extended.text]
    rw [h.parse?_cellText]
  unfold readDate
  rw [hcell]
  rfl

end Date

/-! ### Times -/

/-- The time is one of whole microseconds, and its date has a year from 1 to
9999.  These are the times that come back from a cell as they were. -/
structure Instant.FitsCell (t : Instant) : Prop where
  whole : Instant.ofMicros t.micros = t
  date : t.date.FitsCell

instance : DecidablePred Instant.FitsCell := fun t =>
  decidable_of_iff (Instant.ofMicros t.micros = t ∧ t.date.FitsCell)
    ⟨fun h => ⟨h.1, h.2⟩, fun h => ⟨h.whole, h.date⟩⟩

namespace Instant

variable {s t : Instant}

/-- The microseconds of a time that is made of microseconds. -/
theorem micros_ofMicros (n : Int) : (ofMicros n).micros = n := by
  unfold micros ofMicros
  dsimp only
  omega

/-- The time cut to whole microseconds, which is what a cell holds of it. -/
def cut (t : Instant) : Instant := ofMicros t.micros

/-- A time that has a cell is in it with its microseconds, and its year has four
digits at most. -/
theorem toCell?_eq_some {c : TimeCell} (h : t.toCell? = some c) :
    c = .finite t.micros ∧ t.date.civil.year ≤ 9999 := by
  unfold toCell? at h
  split at h
  · rename_i hyear
    exact ⟨(Option.some.inj h).symm, hyear⟩
  · cases h

/-- A time that is read from a cell is the one that was put into it, cut to
microseconds. -/
theorem eq_cut_of_read (h : readTime (.finite t.micros) = .ok s) : s = t.cut := by
  unfold readTime TimeCell.read at h
  dsimp only at h
  split at h
  · exact (Except.ok.inj h).symm
  · cases h

/-- Such a time has a cell, with its microseconds in it. -/
theorem FitsCell.toCell? (h : t.FitsCell) : t.toCell? = some (.finite t.micros) := if_pos h.date.2

/-- **A time is read back from its cell**, to the microsecond. -/
theorem FitsCell.read (h : t.FitsCell) : readTime (.finite t.micros) = .ok t := by
  have hcell : TimeCell.read (.finite t.micros) = .ok t := by
    unfold TimeCell.read
    dsimp only
    rw [h.whole, h.date.parse?_cellText]
    rfl
  unfold readTime
  rw [hcell]
  rfl

/-- Cells are ordered as the times in them. -/
theorem FitsCell.atMost_eq (hs : s.FitsCell) (ht : t.FitsCell) :
    s.atMost t = TimeCell.atMost (.finite s.micros) (.finite t.micros) := by
  have hbefore : ∀ m n : Int, (ofMicros m).before (ofMicros n) = decide (m < n) := by
    intro m n
    unfold before ofMicros
    rw [Bool.eq_iff_iff]
    simp only [Bool.or_eq_true, Bool.and_eq_true, decide_eq_true_iff, beq_iff_eq]
    omega
  rw [← hs.whole, ← ht.whole]
  unfold atMost
  rw [hbefore, micros_ofMicros, micros_ofMicros]
  show (!decide (t.micros < s.micros)) = decide (s.micros ≤ t.micros)
  simp only [← decide_not, Int.not_lt]

end Instant
end LedgerRules
