/-
# The text of a double

Positional or with an exponent, a double is written with its shortest digits,
and the text stands for just what they do (`NumberText.Writes`).  A reader takes
as many of the digits as 64 bits hold and drops the others, so what it scales is
no more than that.  The digits of a double stay below the middle between the two
greatest doubles, so what is read is a double again, though it may be another
one; for the greatest double itself that is computed.  So every number that a
reader gives is written as a number that a reader takes
(`Number.exists_reread?`).
-/

import LedgerRules.Proofs.Json.NumberText
import LedgerRules.Proofs.Number.Digits

namespace LedgerRules
namespace Json

/-! ### What a text stands for -/

/-- The loop over digits as numbers is that over their characters. -/
theorem foldl_digitValue (cs : List Char) (start : Nat) :
    (cs.map digitValue).foldl (fun n d => n * 10 + d) start = Nat.ofDigitChars 10 cs start := by
  rw [List.foldl_map]
  exact Text.foldl_digits cs start

namespace NumberText

/-- The number that a text stands for, its sign aside.  It is exact, however
many digits there are; the double that is read may be another one. -/
def size (t : NumberText) : ℚ :=
  Nat.ofDigitChars 10 (t.whole ++ t.fraction.getD []) 0 *
    10 ^ (t.power?.getD 0 - (t.fraction.getD []).length)

/-- A text writes digits: it can be read, its digits before the point fit 64
bits, and it stands for what the digits do. -/
structure Writes (t : NumberText) (d : DigitString) : Prop where
  digital : t.Digital
  first : (t.whole.map digitValue).head? = some 0 → t.whole.length = 1
  fraction : t.fraction ≠ some []
  exponent : t.exponent.map Prod.snd ≠ some []
  parted : t.fraction = none → t.exponent ≠ none
  room : Nat.ofDigitChars 10 t.whole 0 ≤ maxUnsigned
  size : t.size = d.size

/-- A sign in front of a text without one, which changes neither its digits nor
its size. -/
theorem Writes.signed {t : NumberText} {d : DigitString} (h : t.Writes d) (negative : Bool)
    {body : List Char} (hbody : body = t.whole ++ t.tailChars) : ∃ t' : NumberText, t'.Writes d ∧
      (if negative then '-' :: body else body) = t'.chars := by
  have ht := h.digital
  refine ⟨{ t with negative }, ⟨⟨ht.whole_ne_nil, ht.whole, ht.fraction, ht.exponent⟩, h.first,
    h.fraction, h.exponent, h.parted, h.room, h.size⟩, ?_⟩
  subst hbody
  cases negative <;> rfl

end NumberText

/-! ### Reading it -/

/-- Takes a digit behind the point, and counts it if it finds room.  Once one
finds none, the reader passes over all that follow. -/
def takeDigit (p : Significand × Nat) (d : Nat) : Significand × Nat :=
  let s := Significand.push p.1 d
  (s, if s.full then p.2 else p.2 + 1)

/-- Where there is no more room no digit is taken. -/
theorem foldl_takeDigit_full (ds : List Nat) (v taken : Nat) :
    ds.foldl takeDigit (⟨v, true⟩, taken) = (⟨v, true⟩, taken) := by
  induction ds with
  | nil => rfl
  | cons d ds ih => exact ih

/-- Further digits do not make a number smaller. -/
theorem mul_pow_le_foldl (ds : List Nat) (n : Nat) :
    n * 10 ^ ds.length ≤ ds.foldl (fun n d => n * 10 + d) n := by
  induction ds generalizing n with
  | nil => exact (Nat.mul_one n).le
  | cons d ds ih =>
    calc n * 10 ^ (ds.length + 1) = n * 10 * 10 ^ ds.length := by rw [pow_succ]; ring
      _ ≤ (n * 10 + d) * 10 ^ ds.length := Nat.mul_le_mul_right _ (Nat.le_add_right _ d)
      _ ≤ _ := ih (n * 10 + d)

/-- The digits that are taken stand for no more than all of them. -/
theorem foldl_takeDigit_le (ds : List Nat) (v taken : Nat) :
    (ds.foldl takeDigit (⟨v, false⟩, taken)).1.value * 10 ^ taken * 10 ^ ds.length ≤
      ds.foldl (fun n d => n * 10 + d) v * 10 ^ (ds.foldl takeDigit (⟨v, false⟩, taken)).2 := by
  induction ds generalizing v taken with
  | nil => exact (Nat.mul_one _).le
  | cons d ds ih =>
    rw [List.foldl_cons, List.foldl_cons]
    by_cases hroom : maxUnsigned < v * 10 + d
    · have hstep : takeDigit (⟨v, false⟩, taken) d = (⟨v, true⟩, taken) := by
        simp [takeDigit, Significand.push, hroom]
      rw [hstep, foldl_takeDigit_full]
      calc v * 10 ^ taken * 10 ^ (d :: ds).length
          = v * 10 ^ (d :: ds).length * 10 ^ taken := Nat.mul_right_comm _ _ _
        _ ≤ _ := Nat.mul_le_mul_right _ (mul_pow_le_foldl (d :: ds) v)
    · have hstep : takeDigit (⟨v, false⟩, taken) d = (⟨v * 10 + d, false⟩, taken + 1) := by
        simp [takeDigit, Significand.push, hroom]
      rw [hstep]
      refine le_trans (le_of_eq ?_) (ih (v * 10 + d) (taken + 1))
      rw [List.length_cons, pow_succ, pow_succ]
      ring

/-- The digits behind the point leave 64 bits, and no more than they stand for. -/
theorem fractionDigits_le {start : Nat} (ds : List Nat) (hs : start ≤ maxUnsigned) :
    (fractionDigits start ds).1 ≤ maxUnsigned ∧ (fractionDigits start ds).1 * 10 ^ ds.length ≤
      ds.foldl (fun n d => n * 10 + d) start * 10 ^ (fractionDigits start ds).2 := by
  have hvalue := foldl_takeDigit_le ds start 0
  rw [pow_zero, Nat.mul_one] at hvalue
  exact ⟨value_foldl_push (fun full n => if full then n else n + 1) ds 0 hs, hvalue⟩

/-- Digits with a point or an exponent make a double. -/
theorem buildNumber_of_parted {negative : Bool} {whole : List Nat} {fraction : Option (List Nat)}
    {exponent : Option Int} {s : Significand} {dropped : Nat}
    (hwhole : wholeDigits whole = (s, dropped)) (h : fraction = none → exponent ≠ none) :
    buildNumber negative whole fraction exponent =
      (scaleDouble negative (fractionDigits s.value (fraction.getD [])).1
        ((dropped : Int) - (fractionDigits s.value (fraction.getD [])).2 +
          exponent.getD 0)).map .double := by
  unfold buildNumber
  rw [hwhole]
  cases fraction <;> cases exponent <;> first | rfl | exact absurd rfl (h rfl)

namespace NumberText.Writes

variable {t : NumberText} {d : DigitString}

/-- The digits before the point are all taken. -/
theorem wholeDigits_eq (h : t.Writes d) : wholeDigits (t.whole.map digitValue) =
    (⟨Nat.ofDigitChars 10 t.whole 0, false⟩, 0) := by
  have hfold := wholeDigits_foldl (t.whole.map digitValue) 0
    (by rw [foldl_digitValue]; exact h.room)
  rwa [foldl_digitValue] at hfold

/-- **What is taken of the text and scaled is no more than it writes.** -/
theorem taken_le (h : t.Writes d) {value taken : Nat}
    (hle : value * 10 ^ (t.fraction.getD []).length ≤
      Nat.ofDigitChars 10 (t.whole ++ t.fraction.getD []) 0 * 10 ^ taken) :
    (value : ℚ) * 10 ^ ((0 : Nat) - (taken : Int) + t.power?.getD 0) ≤ d.size := by
  rw [← h.size]
  unfold NumberText.size
  generalize t.power?.getD 0 = p
  generalize (t.fraction.getD []).length = n at *
  generalize Nat.ofDigitChars 10 (t.whole ++ t.fraction.getD []) 0 = all at *
  have hpow : ∀ (e : Nat) (f g : Int), (e : Int) + f = g → (10 : ℚ) ^ e * 10 ^ f = 10 ^ g := by
    intro e f g h
    rw [← zpow_natCast, ← zpow_add₀ (by norm_num), h]
  have hle : (value : ℚ) * 10 ^ n ≤ all * 10 ^ taken := by exact_mod_cast hle
  calc (value : ℚ) * 10 ^ ((0 : Nat) - (taken : Int) + p)
      = value * 10 ^ n * 10 ^ (p - taken - n) := by
        rw [mul_assoc, hpow n (p - taken - n) ((0 : Nat) - (taken : Int) + p) (by omega)]
    _ ≤ all * 10 ^ taken * 10 ^ (p - taken - n) :=
        mul_le_mul_of_nonneg_right hle (zpow_pos (by norm_num) _).le
    _ = all * 10 ^ (p - n) := by
        rw [mul_assoc, hpow taken (p - taken - n) (p - n) (by omega)]

/-- **Digits below the middle between the two greatest doubles are read as a
double.** Past it they are read as nothing, and the whole text with them. -/
theorem exists_number? (h : t.Writes d) (hd : d.size < Binary64.greatestMiddle + 1) :
    ∃ x, t.number? = some (.double x) := by
  have hfraction : (t.fraction.map (·.map digitValue)).getD [] =
      (t.fraction.getD []).map digitValue := by
    cases t.fraction <;> rfl
  have hparted : t.fraction.map (·.map digitValue) = none → t.power? ≠ none := by
    intro hnone hpower
    exact h.parted (Option.map_eq_none_iff.1 hnone) (Option.map_eq_none_iff.1 hpower)
  obtain ⟨hvalue, hle⟩ := fractionDigits_le ((t.fraction.getD []).map digitValue) h.room
  rw [foldl_digitValue, List.length_map, ← Nat.ofDigitChars_append] at hle
  obtain ⟨x, hx⟩ := exists_scaleDouble t.negative hvalue ((h.taken_le hle).trans_lt hd)
  have hfirst : ((t.whole.map digitValue).isEmpty || ((t.whole.map digitValue).head? == some 0 &&
      (t.whole.map digitValue).length != 1)) = false := by
    rw [Bool.or_eq_false_iff, List.isEmpty_map, List.isEmpty_eq_false_iff, List.length_map]
    refine ⟨h.digital.whole_ne_nil, Bool.eq_false_iff.2 fun hzero => ?_⟩
    rw [Bool.and_eq_true, beq_iff_eq, bne_iff_ne] at hzero
    exact hzero.2 (h.first hzero.1)
  refine ⟨x, ?_⟩
  unfold number?
  dsimp only
  rw [hfirst, if_neg Bool.false_ne_true, if_neg (not_or.2 ⟨h.fraction, h.exponent⟩),
    buildNumber_of_parted h.wholeDigits_eq hparted, hfraction, hx]
  rfl

end NumberText.Writes

/-! ### Writing it -/

/-- Zeros are digits. -/
theorem isDigit_replicate (n : Nat) : ∀ c ∈ List.replicate n '0', isDigit c = true := by
  intro c hc
  rw [List.eq_of_mem_replicate hc]
  rfl

/-- A text stands for digits if it has them, up to zeros behind them, in their
place. -/
theorem NumberText.size_eq {t : NumberText} {d : DigitString} (zeros : Nat)
    (hdigits : Nat.ofDigitChars 10 (t.whole ++ t.fraction.getD []) 0 = d.digits * 10 ^ zeros)
    (hplace : t.power?.getD 0 - (t.fraction.getD []).length + zeros = d.place) :
    t.size = d.size := by
  unfold size DigitString.size
  rw [hdigits, ← hplace, zpow_add₀ (by norm_num), zpow_natCast]
  push_cast
  ring

/-- Characters are the digits of a number, without a zero before them.  The
positions of the point are then counted from these characters alone. -/
structure DigitsFor (n : Nat) (ds : List Char) : Prop where
  ne_nil : ds ≠ []
  digits : ∀ c ∈ ds, isDigit c = true
  lt : n < 10 ^ ds.length
  value : Nat.ofDigitChars 10 ds 0 = n
  first : (ds.map digitValue).head? ≠ some 0

/-- The digits of a number that is not zero are digits for it. -/
theorem digitsFor_digitsOf {n : Nat} (hn : n ≠ 0) : DigitsFor n (DigitString.digitsOf n) where
  ne_nil := Nat.toDigits_ne_nil
  digits := isDigit_digitsOf
  lt := (Nat.length_toDigits_le_iff (by decide)
    (List.length_pos_iff.2 Nat.toDigits_ne_nil)).1 le_rfl
  value := Nat.ofDigitChars_toDigits (by decide) (by decide)
  first := head?_toDigits (Nat.pos_of_ne_zero hn)

/-- Digits before a point and behind it make a text. -/
theorem exists_pointed {d : DigitString} {ws fs : List Char} (zeros : Nat) (hws : ws ≠ [])
    (hfs : fs ≠ []) (hwhole : ∀ c ∈ ws, isDigit c = true) (hfraction : ∀ c ∈ fs, isDigit c = true)
    (hfirst : (ws.map digitValue).head? = some 0 → ws.length = 1)
    (hroom : Nat.ofDigitChars 10 ws 0 ≤ maxUnsigned)
    (hdigits : Nat.ofDigitChars 10 (ws ++ fs) 0 = d.digits * 10 ^ zeros)
    (hplace : (zeros : Int) - fs.length = d.place) :
    ∃ t : NumberText, t.Writes d ∧ ws ++ '.' :: fs = t.whole ++ t.tailChars := by
  refine ⟨⟨false, ws, some fs, none⟩, ⟨⟨hws, hwhole, ?_, nofun⟩, hfirst,
    fun h => hfs (Option.some.inj h), nofun, nofun, hroom, ?_⟩, ?_⟩
  · rintro _ ⟨⟩
    exact hfraction
  · refine NumberText.size_eq zeros hdigits ?_
    show (0 : Int) - fs.length + zeros = d.place
    omega
  · simp [NumberText.tailChars, NumberText.exponentChars]

/-- The character `0` is a digit. -/
theorem isDigit_zero : ∀ c ∈ ['0'], isDigit c = true := by simp [isDigit]

/-- A number of up to 16 digits has 64 bits. -/
theorem le_maxUnsigned {n m : Nat} (hn : n ≤ 16) (hm : m < 10 ^ n) : m ≤ maxUnsigned := by
  have hpow : 10 ^ n ≤ 10 ^ 16 := Nat.pow_le_pow_right (by decide) hn
  exact (hm.le.trans hpow).trans (by decide)

/-- An exponent is written with its sign. -/
theorem NumberText.power?_order {t : NumberText} {order : Int}
    (h : t.exponent = some (decide (order < 0), DigitString.digitsOf order.natAbs)) :
    t.power? = some order := by
  have hvalue : digitsToNat ((DigitString.digitsOf order.natAbs).map digitValue) =
    order.natAbs := by
    unfold digitsToNat
    rw [foldl_digitValue]
    exact Nat.ofDigitChars_toDigits (by decide) (by decide)
  unfold power?
  rw [h, Option.map_some]
  dsimp only
  rw [hvalue]
  refine congrArg some ?_
  by_cases hneg : order < 0
  · rw [decide_eq_true hneg, if_pos rfl]
    omega
  · rw [decide_eq_false hneg, if_neg Bool.false_ne_true]
    omega

/-- One digit before the point, others behind it if there are, and an exponent
make a text. -/
theorem exists_powered {d : DigitString} {c : Char} (fraction : Option (List Char))
    (h : DigitsFor d.digits (c :: fraction.getD [])) (hne : fraction ≠ some []) {order : Int}
    (horder : order - (fraction.getD []).length = d.place) : ∃ t : NumberText, t.Writes d ∧
      c :: fraction.elim [] ('.' :: ·) ++ ['e'] ++
        (if order < 0 then ['-'] else Number.style.plus.toList) ++
          DigitString.digitsOf order.natAbs = t.whole ++ t.tailChars := by
  have hc : isDigit c = true := h.digits c List.mem_cons_self
  refine ⟨⟨false, [c], fraction, some (decide (order < 0), DigitString.digitsOf order.natAbs)⟩,
    ⟨⟨by simp, by simpa using hc, ?_, ?_⟩, fun _ => rfl, hne, ?_, nofun, ?_, ?_⟩, ?_⟩
  · rintro fs rfl e he
    exact h.digits e (List.mem_cons_of_mem _ he)
  · rintro _ ⟨⟩
    exact isDigit_digitsOf
  · exact fun hnone => Nat.toDigits_ne_nil (Option.some.inj hnone)
  · have hdigit : c.toNat ≤ 57 := by
      unfold isDigit at hc
      exact of_decide_eq_true (Bool.and_eq_true_iff.1 hc).2
    show 10 * 0 + (c.toNat - 48) ≤ maxUnsigned
    unfold maxUnsigned
    omega
  · refine NumberText.size_eq 0 ?_ ?_
    · rw [Nat.pow_zero, Nat.mul_one]
      exact h.value
    · rw [NumberText.power?_order rfl]
      show order - (fraction.getD []).length + 0 = d.place
      omega
  · by_cases hneg : order < 0 <;>
      simp [NumberText.tailChars, NumberText.exponentChars, hneg, Number.style]

section Styles

variable {d : DigitString} {ds : List Char} (h : DigitsFor d.digits ds)

include h

/-- All digits stand behind the point, with zeros before them. -/
theorem exists_pointed_before (zeros : Nat) (hplace : -(zeros : Int) - ds.length = d.place) :
    ∃ t : NumberText, t.Writes d ∧
      ['0'] ++ '.' :: (List.replicate zeros '0' ++ ds) = t.whole ++ t.tailChars := by
  have hzeros : ∀ c ∈ List.replicate zeros '0' ++ ds, isDigit c = true :=
    fun c hc => (List.mem_append.1 hc).elim (isDigit_replicate _ c) (h.digits c)
  have hsame : Nat.ofDigitChars 10 (['0'] ++ (List.replicate zeros '0' ++ ds)) 0 =
      d.digits * 10 ^ 0 := by
    rw [Nat.ofDigitChars_append, Nat.ofDigitChars_append]
    show Nat.ofDigitChars 10 ds (Nat.ofDigitChars 10 _ 0) = _
    rw [Nat.ofDigitChars_replicate_zero, Nat.mul_zero, h.value, Nat.pow_zero, Nat.mul_one]
  refine exists_pointed 0 (by simp) (by simp [h.ne_nil]) isDigit_zero hzeros (fun _ => rfl)
    (by decide) hsame ?_
  rw [List.length_append, List.length_replicate]
  omega

/-- All digits stand before the point, with zeros behind them. -/
theorem exists_pointed_behind (zeros : Nat) (hroom : ds.length + zeros ≤ 16)
    (hplace : (zeros : Int) = d.place) :
    ∃ t : NumberText, t.Writes d ∧
      ds ++ List.replicate zeros '0' ++ '.' :: ['0'] = t.whole ++ t.tailChars := by
  have hzeros : ∀ c ∈ ds ++ List.replicate zeros '0', isDigit c = true :=
    fun c hc => (List.mem_append.1 hc).elim (h.digits c) (isDigit_replicate _ c)
  have hsame : Nat.ofDigitChars 10 (ds ++ List.replicate zeros '0') 0 = d.digits * 10 ^ zeros := by
    rw [Nat.ofDigitChars_append, Nat.ofDigitChars_replicate_zero, h.value, Nat.mul_comm]
  have hlt : d.digits * 10 ^ zeros < 10 ^ (ds.length + zeros) := by
    rw [Nat.pow_add]
    exact Nat.mul_lt_mul_of_pos_right h.lt (Nat.pow_pos (by decide))
  have hlast : Nat.ofDigitChars 10 (ds ++ List.replicate zeros '0' ++ ['0']) 0 =
      d.digits * 10 ^ (zeros + 1) := by
    rw [Nat.ofDigitChars_append, hsame, Nat.pow_succ, ← Nat.mul_assoc, Nat.mul_comm _ 10]
    rfl
  refine exists_pointed (zeros + 1) (by simp [h.ne_nil]) (by simp) hzeros isDigit_zero
    (fun hfirst => ?_) (hsame ▸ le_maxUnsigned hroom hlt) hlast ?_
  · rw [List.map_append, List.head?_append_of_ne_nil _ (by simpa using h.ne_nil)] at hfirst
    exact absurd hfirst h.first
  · rw [List.length_singleton]
    omega

/-- The point stands among the digits. -/
theorem exists_pointed_among (n : Nat) (hpos : 0 < n) (hroom : n ≤ 16) (hmore : n < ds.length)
    (hplace : (n : Int) - ds.length = d.place) :
    ∃ t : NumberText, t.Writes d ∧ ds.take n ++ '.' :: ds.drop n = t.whole ++ t.tailChars := by
  have htake : ds.take n ≠ [] := by
    rw [← List.length_pos_iff, List.length_take]
    omega
  have hdrop : ds.drop n ≠ [] := by
    rw [← List.length_pos_iff, List.length_drop]
    omega
  have hsame : Nat.ofDigitChars 10 (ds.take n ++ ds.drop n) 0 = d.digits * 10 ^ 0 := by
    rw [List.take_append_drop, h.value, Nat.pow_zero, Nat.mul_one]
  have hlt : Nat.ofDigitChars 10 (ds.take n) 0 < 10 ^ n := by
    have hsplit := hsame
    rw [Nat.ofDigitChars_append, Nat.ofDigitChars_eq_ofDigitChars_zero, List.length_drop] at hsplit
    have hpow : 10 ^ ds.length = 10 ^ (ds.length - n) * 10 ^ n := by
      rw [← Nat.pow_add, Nat.sub_add_cancel hmore.le]
    have hall := h.lt
    refine Nat.lt_of_mul_lt_mul_left (a := 10 ^ (ds.length - n)) ?_
    omega
  have hfirst : (ds.take n).head? = ds.head? := by
    rw [List.head?_take, if_neg (by omega)]
  refine exists_pointed 0 htake hdrop (fun c hc => h.digits c (List.mem_of_mem_take hc))
    (fun c hc => h.digits c (List.mem_of_mem_drop hc)) (fun hzero => ?_)
    (le_maxUnsigned hroom hlt) hsame ?_
  · rw [List.head?_map, hfirst, ← List.head?_map] at hzero
    exact absurd hzero h.first
  · rw [List.length_drop]
    omega

/-- **Positional writing** stands for the digits, where no more than 16 are
before the point. -/
theorem exists_positional (hplace : d.place + ds.length ≤ 16) : ∃ t : NumberText, t.Writes d ∧
    ExponentStyle.positional ds (d.place + ds.length) = t.whole ++ t.tailChars := by
  have hlen : 0 < ds.length := List.length_pos_iff.2 h.ne_nil
  obtain ⟨w, hw⟩ : ∃ w, d.place + ds.length = w := ⟨_, rfl⟩
  rw [hw] at hplace ⊢
  unfold ExponentStyle.positional
  split
  · simpa using exists_pointed_before h (-w).toNat (by omega)
  · rename_i hpos
    split
    · simpa using exists_pointed_behind h (w.toNat - ds.length) (by omega) (by omega)
    · simpa using exists_pointed_among h w.toNat (by omega) (by omega) (by omega) (by omega)

/-- **Writing with an exponent** stands for the digits. -/
theorem exists_scientific : ∃ t : NumberText, t.Writes d ∧
    Number.style.scientific ds (d.place + ds.length - 1) = t.whole ++ t.tailChars := by
  unfold ExponentStyle.scientific
  match ds, h with
  | [], h => exact absurd rfl h.ne_nil
  | [c], h => exact exists_powered none h nofun (by simp)
  | c :: e :: rest, h =>
    exact exists_powered (some (e :: rest)) h nofun (by simp; omega)

end Styles

/-- Zero is written with a digit on each side of the point. -/
theorem exists_zeroText : ∃ t : NumberText, t.Writes ⟨0, 0⟩ ∧
    ExponentStyle.positional (DigitString.digitsOf 0) 1 = t.whole ++ t.tailChars :=
  @exists_pointed ⟨0, 0⟩ ['0'] ['0'] 1 nofun nofun isDigit_zero isDigit_zero
    (fun _ => rfl) (by decide)
    rfl rfl

/-- **A double is written as a text that stands for its shortest digits.** In
which of the two styles depends on its exponent. -/
theorem exists_doubleText (x : Binary64) : ∃ t : NumberText, t.Writes x.shortest ∧
    (Number.double x).toText.toList = t.chars := by
  show ∃ t : NumberText, t.Writes x.shortest ∧ (Number.style.write x).toList = t.chars
  unfold ExponentStyle.write
  dsimp only
  rw [String.toList_ofList]
  by_cases hzero : x.shortest.digits = 0
  · obtain ⟨t, ht, hbody⟩ := exists_zeroText
    rw [Binary64.shortest_eq_zero hzero]
    exact ht.signed x.negative hbody
  have hdigits := digitsFor_digitsOf hzero
  by_cases hstyle : x.shortest.digits = 0 ∨ (Number.style.low ≤ x.shortest.place +
      (DigitString.digitsOf x.shortest.digits).length - 1 ∧ x.shortest.place +
      (DigitString.digitsOf x.shortest.digits).length - 1 < Number.style.high)
  · have hplace : x.shortest.place + (DigitString.digitsOf x.shortest.digits).length ≤ 16 := by
      have hhigh := (hstyle.resolve_left hzero).2
      unfold Number.style at hhigh
      dsimp only at hhigh
      omega
    obtain ⟨t, ht, hbody⟩ := exists_positional hdigits hplace
    simpa only [if_pos hstyle, Int.sub_add_cancel] using ht.signed x.negative hbody
  · obtain ⟨t, ht, hbody⟩ := exists_scientific hdigits
    simpa only [if_neg hstyle] using ht.signed x.negative hbody

end Json

/-! ### Numbers -/

namespace Number

open Json

/-- **The text of a number is digits** with a sign, a fraction and an exponent,
as far as it has them. -/
theorem exists_numberText (n : Number) :
    ∃ t : NumberText, t.Digital ∧ n.toText.toList = t.chars := by
  cases n with
  | whole n => exact ⟨_, NumberText.digital_ofWhole n, (NumberText.chars_ofWhole n).symm⟩
  | double x =>
    obtain ⟨t, ht, hchars⟩ := exists_doubleText x
    exact ⟨t, ht.digital, hchars⟩

/-- **In front of the text of a number**, a reader takes the text and stops
behind it, or fails.  It fails only for a double that is read back as none. -/
theorem readNumber?_toText_append (n : Number) {rest : List Char} (h : Stops rest) :
    readNumber? (n.toText.toList ++ rest) = n.reread?.map (·, rest) := by
  obtain ⟨t, ht, hchars⟩ := exists_numberText n
  have halone := t.readNumber?_chars ht stops_nil
  rw [List.append_nil] at halone
  unfold reread?
  rw [hchars, t.readNumber?_chars ht h, halone, Option.map_map, Option.map_map]
  rfl

/-- The text of a number begins with a hyphen or a digit. -/
theorem toText_eq_cons (n : Number) :
    ∃ c cs, n.toText.toList = c :: cs ∧ (c = '-' ∨ c.isDigit = true) := by
  obtain ⟨t, ht, hchars⟩ := exists_numberText n
  rw [hchars]
  exact ht.chars_eq_cons

/-- The greatest double is read again, with either sign.  It is the one number
for which nearness to a middle has to be looked at. -/
theorem exists_reread?_greatest : ∀ negative,
    ((double ⟨negative, Binary64.greatest.significand,
      Binary64.greatest.exponent⟩).reread?).isSome =
      true := by
  decide +kernel

/-- **Whatever a reader gives is written as a number that a reader takes.** So a
text that was read once can be written and read again, even if a double in it
comes back as a neighbour. -/
theorem exists_reread? {n : Number} (h : n.FitsWord) : ∃ m, n.reread? = some m := by
  cases n with
  | whole n => exact ⟨_, reread?_whole h⟩
  | double x =>
    by_cases hgreatest :
        x.significand = Binary64.greatest.significand ∧ x.exponent = Binary64.greatest.exponent
    · obtain ⟨negative, significand, exponent⟩ := x
      obtain ⟨rfl, rfl⟩ := hgreatest
      exact Option.isSome_iff_exists.1 (exists_reread?_greatest negative)
    · obtain ⟨t, ht, hchars⟩ := exists_doubleText x
      obtain ⟨y, hy⟩ := ht.exists_number? (Binary64.size_shortest_lt h hgreatest)
      have hread := t.readNumber?_chars ht.digital stops_nil
      rw [List.append_nil, hy] at hread
      unfold reread?
      rw [hchars, hread]
      exact ⟨_, rfl⟩

end Number
end LedgerRules
