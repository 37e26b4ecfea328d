/-
# Digits that are read again

A number is written by its digits, in tens or in sixteens, and reading is a loop
that multiplies by the base and adds the next digit.  What was written is read
as the number it was, with zeros before it or without, and a reader that takes
all the digits it finds stops behind them.
-/

import LedgerRules.Id
import LedgerRules.Time.Date
import Mathlib.Algebra.GroupWithZero.Nat
import Mathlib.Data.List.TakeWhile

namespace LedgerRules

namespace Text

/-! ### Tens -/

/-- The loop that reads decimal digits. -/
theorem foldl_digits (cs : List Char) (start : Nat) :
    cs.foldl (fun n c => n * 10 + (c.toNat - 48)) start = Nat.ofDigitChars 10 cs start := by
  unfold Nat.ofDigitChars
  refine congrArg (fun f => cs.foldl f start) (funext fun n => funext fun c => ?_)
  rw [Nat.mul_comm]
  rfl

/-- The digits of a number are read as the number. -/
theorem foldl_toDigits (n : Nat) :
    (Nat.toDigits 10 n).foldl (fun n c => n * 10 + (c.toNat - 48)) 0 = n := by
  rw [foldl_digits]
  exact Nat.ofDigitChars_toDigits (by decide) (by decide)

/-- The digits of a number are digits. -/
theorem isDigit_toDigits {n : Nat} {c : Char} (h : c ∈ Nat.toDigits 10 n) : c.isDigit = true :=
  Nat.isDigit_of_mem_toDigits (by decide) (by decide) h

/-! ### Sixteens -/

/-- A hexadecimal digit is read as what it stands for. -/
theorem hexDigit?_digitChar {d : Nat} (h : d < 16) : hexDigit? (Nat.digitChar d) = some d := by
  have hall : ∀ d : Fin 16, hexDigit? (Nat.digitChar d) = some d.val := by decide
  exact hall ⟨d, h⟩

/-- As many hexadecimal digits are written as are asked for. -/
theorem length_hexChars (count n : Nat) : (hexChars count n).length = count := by
  induction count generalizing n with
  | zero => rfl
  | succ count ih => rw [hexChars, List.length_append, ih, List.length_singleton]

/-- Hexadecimal digits are read as what they hold of the number. -/
theorem hexNumber?_hexChars (count n : Nat) :
    hexNumber? (hexChars count n) = some (n % 16 ^ count) := by
  induction count generalizing n with
  | zero => rw [Nat.pow_zero, Nat.mod_one]; rfl
  | succ count ih =>
    have hlast : hexDigit? (Nat.digitChar (n % 16)) = some (n % 16) :=
      hexDigit?_digitChar (Nat.mod_lt _ (by decide))
    have hvalue : n / 16 % 16 ^ count * 16 + n % 16 = n % 16 ^ (count + 1) := by
      rw [Nat.pow_succ, Nat.mul_comm (16 ^ count), Nat.mod_mul]
      omega
    unfold hexNumber? at ih ⊢
    rw [hexChars, List.foldl_append, ih, List.foldl_cons, List.foldl_nil, Option.bind_some, hlast,
      Option.map_some, hvalue]

end Text

namespace Date

/-! ### Numbers of a fixed width -/

variable {width n : Nat}

/-- A number that fits a width is written in that width. -/
theorem length_padded (h : n < 10 ^ width) (hw : 0 < width) : (padded width n).length = width := by
  have hle : (Nat.toDigits 10 n).length ≤ width := (Nat.length_toDigits_le_iff (by decide) hw).2 h
  unfold padded
  rw [List.length_append, List.length_replicate]
  omega

/-- What a number is filled up with are digits as well. -/
theorem isDigit_padded {c : Char} (h : c ∈ padded width n) : c.isDigit = true := by
  rcases List.mem_append.1 h with hz | hd
  · obtain rfl := List.eq_of_mem_replicate hz
    rfl
  · exact Text.isDigit_toDigits hd

/-- Zeros before a number do not change it. -/
theorem foldl_padded (width n : Nat) :
    (padded width n).foldl (fun n c => n * 10 + (c.toNat - 48)) 0 = n := by
  unfold padded
  rw [Text.foldl_digits, Nat.ofDigitChars_append, Nat.ofDigitChars_replicate_zero, Nat.mul_zero]
  exact Nat.ofDigitChars_toDigits (by decide) (by decide)

/-- A number that fits its width is read again, and what follows it is left. -/
theorem scanDigits?_padded (h : n < 10 ^ width) (hw : 0 < width) (rest : List Char) :
    scanDigits? width (padded width n ++ rest) = some (n, rest) := by
  have hlen := length_padded h hw
  have htake : (padded width n ++ rest).take width = padded width n := by
    rw [List.take_append_of_le_length (Nat.le_of_eq hlen.symm),
      List.take_of_length_le (Nat.le_of_eq hlen)]
  have hwhile : (padded width n).takeWhile Char.isDigit = padded width n :=
    List.takeWhile_eq_self_iff.2 fun c hc => isDigit_padded hc
  have hne : (padded width n).isEmpty = false := by
    rw [List.isEmpty_eq_false_iff_exists_mem]
    exact ⟨_, List.getElem_mem (by omega : 0 < (padded width n).length)⟩
  unfold scanDigits?
  rw [htake, hwhile]
  dsimp only
  rw [hne, if_neg Bool.false_ne_true, foldl_padded, List.drop_left]

/-- A digit is no blank. -/
theorem isBlank_of_isDigit {c : Char} (h : c.isDigit = true) : Text.isBlank c = false := by
  have hrange : 48 ≤ c.toNat ∧ c.toNat ≤ 57 := by
    rw [Char.isDigit, Bool.and_eq_true, decide_eq_true_iff, decide_eq_true_iff] at h
    exact ⟨h.1, h.2⟩
  unfold Text.isBlank
  simp only [Bool.or_eq_false_iff, Bool.and_eq_false_iff, decide_eq_false_iff_not,
    beq_eq_false_iff_ne]
  omega

/-- No blank stands before the digits. -/
theorem skipBlanks_padded (width n : Nat) (rest : List Char) :
    skipBlanks (padded width n ++ rest) = padded width n ++ rest := by
  unfold skipBlanks
  cases hp : padded width n with
  | nil =>
    have hd : Nat.toDigits 10 n = [] := (List.append_eq_nil_iff.1 hp).2
    exact absurd hd Nat.toDigits_ne_nil
  | cons c cs =>
    have hc : c.isDigit = true := isDigit_padded (hp ▸ List.mem_cons_self)
    rw [List.cons_append, List.dropWhile_cons_of_neg]
    rw [isBlank_of_isDigit hc]
    exact Bool.false_ne_true

/-- So a number that fits its width is read again where blanks may stand before
it. -/
theorem scanNumber?_padded (h : n < 10 ^ width) (hw : 0 < width) (rest : List Char) :
    scanNumber? width (padded width n ++ rest) = some (n, rest) := by
  unfold scanNumber?
  rw [skipBlanks_padded, scanDigits?_padded h hw]

end Date

/-! ### Identifiers -/

namespace Id

/-- Groups of digits with hyphens between them are put together again. -/
theorem ofGroups?_append {a b c d e : List Char} (ha : a.length = 8) (hb : b.length = 4)
    (hc : c.length = 4) (hd : d.length = 4) (he : e.length = 12) :
    ofGroups? (a ++ '-' :: b ++ '-' :: c ++ '-' :: d ++ '-' :: e) =
      ofDigits? (a ++ b ++ c ++ d ++ e) := by
  have hlen : (a ++ '-' :: b ++ '-' :: c ++ '-' :: d ++ '-' :: e).length = 36 := by
    simp [ha, hb, hc, hd, he]
  have hmarks : [8, 13, 18, 23].all
      (fun i => (a ++ '-' :: b ++ '-' :: c ++ '-' :: d ++ '-' :: e)[i]? == some '-') = true := by
    simp [List.getElem?_append, List.getElem?_cons, ha, hb, hc, hd]
  have hdigits : (a ++ '-' :: b ++ '-' :: c ++ '-' :: d ++ '-' :: e).take 8 ++
      ((a ++ '-' :: b ++ '-' :: c ++ '-' :: d ++ '-' :: e).drop 9).take 4 ++
      ((a ++ '-' :: b ++ '-' :: c ++ '-' :: d ++ '-' :: e).drop 14).take 4 ++
      ((a ++ '-' :: b ++ '-' :: c ++ '-' :: d ++ '-' :: e).drop 19).take 4 ++
      (a ++ '-' :: b ++ '-' :: c ++ '-' :: d ++ '-' :: e).drop 24 = a ++ b ++ c ++ d ++ e := by
    simp (disch := omega) [List.drop_append, List.drop_of_length_le, ha, hb, hc, hd]
  unfold ofGroups?
  rw [hmarks, hlen, hdigits]
  rfl


/-- **An identifier is read again from its text.** Identifiers are kept as text
in tables, so none is lost there. -/
theorem parse?_text (id : Id) : parse? id.text = some id := by
  obtain ⟨code⟩ := id
  obtain ⟨digits, hdigits⟩ : ∃ digits, Text.hexChars 32 code.toNat = digits := ⟨_, rfl⟩
  have hlen : digits.length = 32 := by rw [← hdigits, Text.length_hexChars]
  have hread : Text.hexNumber? digits = some code.toNat := by
    have hlt : code.toNat < 16 ^ 32 := Nat.lt_of_lt_of_eq code.isLt (by decide)
    rw [← hdigits, Text.hexNumber?_hexChars, Nat.mod_eq_of_lt hlt]
  have hsplit : digits.take 8 ++ (digits.drop 8).take 4 ++ (digits.drop 12).take 4 ++
      (digits.drop 16).take 4 ++ digits.drop 20 = digits := by
    have h4 : ∀ n, (digits.drop n).take 4 ++ digits.drop (n + 4) = digits.drop n := by
      intro n
      rw [← List.drop_drop, List.take_append_drop]
    rw [List.append_assoc, h4 16, List.append_assoc, h4 12, List.append_assoc, h4 8,
      List.take_append_drop]
  have hgroups : ofGroups? (Id.mk code).chars = some ⟨code⟩ := by
    unfold chars
    dsimp only
    rw [hdigits, ofGroups?_append (by simp [hlen]) (by simp [hlen]) (by simp [hlen])
      (by simp [hlen])
      (by simp [hlen]), hsplit]
    unfold ofDigits?
    rw [if_pos hlen, hread, Option.map_some, BitVec.ofNat_toNat, BitVec.setWidth_eq]
  have hchars : (Id.mk code).chars.length = 36 := by
    unfold chars
    simp [hdigits, hlen]
  unfold parse? text
  rw [String.toList_ofList]
  dsimp only
  rw [hchars, if_neg (by decide), if_pos rfl, hgroups]

/-- Identifiers with one text are the same. -/
theorem text_inj {a b : Id} (h : a.text = b.text) : a = b := by
  have hb := parse?_text b
  rw [← h, parse?_text a] at hb
  exact Option.some.inj hb

/-- Two identifiers are told apart by their texts. -/
theorem text_beq (a b : Id) : (a.text == b.text) = (a == b) := by
  rw [Bool.eq_iff_iff, beq_iff_eq, beq_iff_eq]
  exact ⟨text_inj, congrArg text⟩

end Id
end LedgerRules
