/-
# The text of a number

A number is written as digits with a sign, a fraction and an exponent
(`NumberText`), and a reader that is in front of such a text takes all of it or
fails, whatever follows, if that is nothing of a number (`readNumber?_chars`).
So it is a matter of the text alone whether a number comes back, and as which
(`Number.reread?`): a whole number of 64 bits, with or without sign, comes back
as it was (`Number.reread?_whole`).  Other whole numbers are not read, and of
doubles only those in range (`fitsWord_of_readNumber?`).
-/

import LedgerRules.Proofs.Json.Scaling
import LedgerRules.Proofs.Text.Digits

namespace LedgerRules
namespace Json

/-! ### Digits -/

/-- What follows a number: nothing that could be a part of it. -/
def Stops (rest : List Char) : Prop :=
  ∀ c ∈ rest.head?, isDigit c = false ∧ c ≠ '.' ∧ c ≠ 'e' ∧ c ≠ 'E'

/-- The end of a text ends a number. -/
theorem stops_nil : Stops [] := nofun

/-- The digits at the start of a text are taken, and nothing more. -/
theorem spanDigits_append {ds rest : List Char} (hds : ∀ c ∈ ds, isDigit c = true)
    (h : ∀ c ∈ rest.head?, isDigit c = false) :
    spanDigits (ds ++ rest) = (ds.map digitValue, rest) := by
  have htake : rest.takeWhile isDigit = [] := by
    cases rest with
    | nil => rfl
    | cons c rest => simp [h c rfl]
  have hdrop : rest.dropWhile isDigit = rest := by
    cases rest with
    | nil => rfl
    | cons c rest => simp [h c rfl]
  unfold spanDigits
  rw [List.takeWhile_append_of_pos hds, List.dropWhile_append_of_pos hds, htake, hdrop,
    List.append_nil]

/-- The text of a number in its parts; an exponent is marked as negative or
not.  What is shown of reading numbers and of writing them goes by these parts.
-/
structure NumberText where
  negative : Bool
  whole : List Char
  fraction : Option (List Char)
  exponent : Option (Bool × List Char)

namespace NumberText

/-- The characters of the exponent. -/
def exponentChars (t : NumberText) : List Char :=
  t.exponent.elim [] fun (negative, ds) => 'e' :: (if negative then '-' else '+') :: ds

/-- The characters behind the whole digits. -/
def tailChars (t : NumberText) : List Char :=
  t.fraction.elim [] ('.' :: ·) ++ t.exponentChars

/-- The characters of the text. -/
def chars (t : NumberText) : List Char :=
  (if t.negative then ['-'] else []) ++ t.whole ++ t.tailChars

/-- All parts are digits, and there is one before the point.  The grammar of
JSON asks for more, but a reader that stops where no digit follows needs only
this. -/
structure Digital (t : NumberText) : Prop where
  whole_ne_nil : t.whole ≠ []
  whole : ∀ c ∈ t.whole, isDigit c = true
  fraction : ∀ ds ∈ t.fraction, ∀ c ∈ ds, isDigit c = true
  exponent : ∀ e ∈ t.exponent, ∀ c ∈ e.2, isDigit c = true

/-- The value of the exponent.  It is a whole number of any size; doubles past
their range are found out later. -/
def power? (t : NumberText) : Option Int :=
  t.exponent.map fun (negative, ds) =>
    if negative then -(digitsToNat (ds.map digitValue) : Int) else digitsToNat (ds.map digitValue)

/-- The number that a text stands for, if it is well formed and not too large.
It puts together what the reader does part by part. -/
def number? (t : NumberText) : Option Number :=
  let whole := t.whole.map digitValue
  if whole.isEmpty || (whole.head? == some 0 && whole.length != 1) then none
  else if t.fraction = some [] ∨ t.exponent.map Prod.snd = some [] then none
  else buildNumber t.negative whole (t.fraction.map (·.map digitValue)) t.power?

end NumberText

/-! ### Reading -/

/-- An exponent is its sign and its digits. -/
theorem readExponent?_sign (negative : Bool) {ds rest : List Char}
    (hds : ∀ c ∈ ds, isDigit c = true) (h : Stops rest) :
    readExponent? ((if negative then '-' else '+') :: (ds ++ rest)) =
      if ds = [] then none
      else some (if negative then -(digitsToNat (ds.map digitValue) : Int)
        else digitsToNat (ds.map digitValue), rest) := by
  have hspan := spanDigits_append hds fun c hc => (h c hc).1
  cases negative <;> cases ds <;> simp [readExponent?] at hspan ⊢ <;> simp [hspan]

namespace NumberText

variable {t : NumberText} {rest : List Char}

/-- What follows the digits of a fraction is none. -/
theorem head?_exponentChars (h : Stops rest) :
    ∀ c ∈ (t.exponentChars ++ rest).head?, isDigit c = false ∧ c ≠ '.' := by
  intro c hc
  unfold exponentChars at hc
  cases he : t.exponent with
  | none =>
    rw [he] at hc
    exact ⟨(h c hc).1, (h c hc).2.1⟩
  | some e =>
    rw [he] at hc
    obtain rfl : 'e' = c := by simpa using hc
    decide

/-- What follows the digits before the point is none. -/
theorem head?_tailChars (h : Stops rest) :
    ∀ c ∈ (t.tailChars ++ rest).head?, isDigit c = false := by
  intro c hc
  unfold tailChars at hc
  cases hf : t.fraction with
  | none =>
    rw [hf] at hc
    exact (head?_exponentChars h c hc).1
  | some ds =>
    rw [hf] at hc
    obtain rfl : '.' = c := by simpa using hc
    decide

/-- The sign in front of the digits is taken. -/
theorem sign_chars (ht : t.Digital) (rest : List Char) :
    (match t.chars ++ rest with
      | '-' :: rest => (true, rest)
      | _ => (false, t.chars ++ rest)) = (t.negative, t.whole ++ (t.tailChars ++ rest)) := by
  have hchars : t.chars ++ rest =
      (if t.negative then ['-'] else []) ++ (t.whole ++ (t.tailChars ++ rest)) := by
    simp [chars]
  rw [hchars]
  cases t.negative with
  | true => rfl
  | false =>
    obtain ⟨c, ds, hwhole⟩ := List.exists_cons_of_ne_nil ht.whole_ne_nil
    have hc : c ≠ '-' := by
      rintro rfl
      have hdigit := ht.whole '-' (hwhole ▸ List.mem_cons_self)
      cases hdigit
    simp [hwhole, hc]

/-- An exponent is read if there is one; what reads on is `k`. -/
theorem read_exponentChars {β : Type} (ht : t.Digital) (h : Stops rest)
    (k : Option Int → List Char → Option β) :
    (match t.exponentChars ++ rest with
      | c :: after =>
        if (decide (c = 'e') || decide (c = 'E')) = true then
          (readExponent? after).bind fun p => k (some p.1) p.2
        else k none (t.exponentChars ++ rest)
      | [] => k none (t.exponentChars ++ rest)) =
      if t.exponent.map Prod.snd = some [] then none else k t.power? rest := by
  cases he : t.exponent with
  | none =>
    have hrest : t.exponentChars ++ rest = rest := by simp [exponentChars, he]
    rw [hrest]
    cases rest with
    | nil => simp [power?, he]
    | cons c cs =>
      obtain ⟨-, -, hlower, hupper⟩ := h c rfl
      simp [power?, he, hlower, hupper]
  | some e =>
    obtain ⟨negative, es⟩ := e
    have hrest : t.exponentChars ++ rest =
        'e' :: (if negative then '-' else '+') :: (es ++ rest) := by
      simp [exponentChars, he]
    have hexp : readExponent? ((if negative then '-' else '+') :: (es ++ rest)) = _ :=
      readExponent?_sign negative (ht.exponent _ he) h
    rw [hrest]
    dsimp only
    rw [if_pos (by decide), hexp]
    by_cases hes : es = []
    · simp [hes]
    · simp [hes, power?, he]

/-- **The text of a number is read to its end or not at all.** What follows must
not be a part of a number. -/
theorem readNumber?_chars (ht : t.Digital) (h : Stops rest) :
    readNumber? (t.chars ++ rest) = t.number?.map (·, rest) := by
  unfold readNumber?
  split
  rename_i negative digits hparts
  obtain ⟨rfl, rfl⟩ := Prod.mk.inj ((sign_chars ht rest).symm.trans hparts)
  rw [spanDigits_append ht.whole (head?_tailChars h)]
  unfold number?
  dsimp only
  cases hwhole : ((t.whole.map digitValue).isEmpty || ((t.whole.map digitValue).head? == some 0 &&
    (t.whole.map digitValue).length != 1)) with
  | true => rfl
  | false =>
    -- The rest of the work, once it is known which digits there are behind the point.
    have hread := fun fraction => read_exponentChars ht h fun power rest =>
      (buildNumber t.negative (t.whole.map digitValue) fraction power).bind fun n => some (n, rest)
    simp only [Bool.false_eq_true, ↓reduceIte, Option.bind_eq_bind, Option.pure_def,
      Option.bind_some, Option.bind_map, Function.comp_def]
    cases hf : t.fraction with
    | none =>
      have htail : t.tailChars ++ rest = t.exponentChars ++ rest := by simp [tailChars, hf]
      rw [htail]
      split
      · rename_i hpoint
        exact absurd rfl (head?_exponentChars (t := t) h '.' (by rw [hpoint]; rfl)).2
      · refine (hread none).trans ?_
        by_cases he : t.exponent.map Prod.snd = some []
        · rw [if_pos he, if_pos (.inr he)]
          rfl
        · rw [if_neg he, if_neg (not_or.2 ⟨nofun, he⟩), Option.map_eq_bind]
          rfl
    | some ds =>
      have htail : t.tailChars ++ rest = '.' :: (ds ++ (t.exponentChars ++ rest)) := by
        simp [tailChars, hf]
      have hspan := spanDigits_append (ht.fraction _ hf) fun c hc =>
        (head?_exponentChars (t := t) h c hc).1
      rw [htail]
      simp only [hspan, List.isEmpty_iff, List.map_eq_nil_iff]
      by_cases hds : ds = []
      · rw [if_pos hds, if_pos (.inl (congrArg some hds))]
        rfl
      · rw [if_neg hds]
        refine (hread _).trans ?_
        by_cases he : t.exponent.map Prod.snd = some []
        · rw [if_pos he, if_pos (.inr he)]
          rfl
        · rw [if_neg he, if_neg (not_or.2 ⟨fun h => hds (Option.some.inj h), he⟩),
            Option.map_eq_bind]
          rfl

/-- The text of a number begins with a hyphen or a digit. -/
theorem Digital.chars_eq_cons (ht : t.Digital) :
    ∃ c cs, t.chars = c :: cs ∧ (c = '-' ∨ c.isDigit = true) := by
  obtain ⟨c, ds, hwhole⟩ := List.exists_cons_of_ne_nil ht.whole_ne_nil
  have hc : c.isDigit = true := ht.whole c (hwhole ▸ List.mem_cons_self)
  unfold chars
  rw [hwhole]
  cases t.negative with
  | true => exact ⟨_, _, rfl, .inl rfl⟩
  | false => exact ⟨_, _, rfl, .inr hc⟩

end NumberText

/-! ### Whole numbers -/

/-- The digits of a number are digits. -/
theorem isDigit_digitsOf {n : Nat} : ∀ c ∈ DigitString.digitsOf n, isDigit c = true :=
  fun _ hc => Text.isDigit_toDigits hc

/-- The text of a whole number: its sign and its digits. -/
theorem toText_whole (n : Int) : (Number.whole n).toText.toList =
    if decide (n < 0) then '-' :: Nat.toDigits 10 n.natAbs else Nat.toDigits 10 n.natAbs := by
  cases n with
  | ofNat k => exact String.toList_ofList
  | negSucc k =>
    show ("-" ++ String.ofList (Nat.toDigits 10 (k + 1))).toList = _
    rw [String.toList_append, String.toList_ofList (l := Nat.toDigits 10 (k + 1)),
      decide_eq_true (Int.negSucc_lt_zero k)]
    rfl

/-- The digits of a whole number alone, without point and exponent. -/
def NumberText.ofWhole (n : Int) : NumberText :=
  ⟨decide (n < 0), Nat.toDigits 10 n.natAbs, none, none⟩

/-- The parts of a whole number's text are digits. -/
theorem NumberText.digital_ofWhole (n : Int) : (ofWhole n).Digital :=
  ⟨Nat.toDigits_ne_nil, isDigit_digitsOf, nofun, nofun⟩

/-- The characters of its parts are those of its text. -/
theorem NumberText.chars_ofWhole (n : Int) :
    (ofWhole n).chars = (Number.whole n).toText.toList := by
  rw [toText_whole]
  by_cases hn : n < 0 <;> simp [ofWhole, chars, tailChars, exponentChars, hn]

/-- Digits that make a number of 64 bits all have room. -/
theorem wholeDigits_foldl (ds : List Nat) (start : Nat)
    (h : ds.foldl (fun n d => n * 10 + d) start ≤ maxUnsigned) :
    ds.foldl (fun (s, dropped) d =>
      let s' := Significand.push s d
      (s', if s'.full then dropped + 1 else dropped)) ((⟨start, false⟩ : Significand), 0) =
      (⟨ds.foldl (fun n d => n * 10 + d) start, false⟩, 0) := by
  have hgrows : ∀ (ds : List Nat) (n : Nat), n ≤ ds.foldl (fun n d => n * 10 + d) n := by
    intro ds
    induction ds with
    | nil => exact fun n => Nat.le_refl n
    | cons d ds ih => exact fun n => Nat.le_trans (by omega) (ih (n * 10 + d))
  induction ds generalizing start with
  | nil => rfl
  | cons d ds ih =>
    rw [List.foldl_cons] at h ⊢
    have hroom : start * 10 + d ≤ maxUnsigned := Nat.le_trans (hgrows ds _) h
    have hpush : Significand.push ⟨start, false⟩ d = ⟨start * 10 + d, false⟩ := by
      unfold Significand.push
      simp only [Bool.false_or, decide_eq_true_eq]
      rw [if_neg (by omega)]
    rw [List.foldl_cons]
    dsimp only
    rw [hpush]
    exact ih _ h

/-- The digits of a number of 64 bits are all taken. -/
theorem wholeDigits_toDigits {n : Nat} (h : n ≤ maxUnsigned) :
    wholeDigits ((Nat.toDigits 10 n).map digitValue) = (⟨n, false⟩, 0) := by
  have hvalue : ((Nat.toDigits 10 n).map digitValue).foldl (fun n d => n * 10 + d) 0 = n := by
    rw [List.foldl_map]
    exact Text.foldl_toDigits n
  have hfold := wholeDigits_foldl ((Nat.toDigits 10 n).map digitValue) 0 (by rwa [hvalue])
  rw [hvalue] at hfold
  exact hfold

/-- No number but zero begins with a zero. -/
theorem head?_toDigits {n : Nat} (h : 0 < n) :
    ((Nat.toDigits 10 n).map digitValue).head? ≠ some 0 := by
  induction n using Nat.strongRecOn with
  | _ n ih =>
    rw [Nat.toDigits_eq_if (by decide)]
    split
    · rename_i hlt
      have hall : ∀ d : Fin 10, 0 < d.val → digitValue (Nat.digitChar d.val) ≠ 0 := by decide
      have hne := hall ⟨n, hlt⟩ h
      simpa using hne
    · have hhead := ih (n / 10) (by omega) (by omega)
      cases hd : Nat.toDigits 10 (n / 10) with
      | nil => exact absurd hd Nat.toDigits_ne_nil
      | cons c cs =>
        rw [hd] at hhead
        simpa using hhead

/-- The digits of a number are well formed: there is one, and no zero before
others. -/
theorem toDigits_wellFormed (n : Nat) :
    (((Nat.toDigits 10 n).map digitValue).isEmpty ||
      (((Nat.toDigits 10 n).map digitValue).head? == some 0 &&
        ((Nat.toDigits 10 n).map digitValue).length != 1)) = false := by
  rw [Bool.or_eq_false_iff, Bool.and_eq_false_iff, List.isEmpty_map, List.isEmpty_eq_false_iff]
  refine ⟨Nat.toDigits_ne_nil, ?_⟩
  rcases Nat.eq_zero_or_pos n with rfl | hn
  · exact .inr rfl
  · exact .inl (beq_eq_false_iff_ne.2 (head?_toDigits hn))

end Json

namespace Number

open Json

/-- What the text of a number is read as: the number itself, a neighbour of it,
or nothing. -/
def reread? (n : Number) : Option Number := (readNumber? n.toText.toList).map (·.1)

/-- A whole number has 64 bits, with sign or without, and a double is in range.
These are the numbers that a JSON value of the program can hold. -/
def FitsWord : Number → Prop
  | whole n => -9223372036854775808 ≤ n ∧ n ≤ maxUnsigned
  | double x => x.InRange

/-- **A whole number of 64 bits comes back**, with sign or without.  Only
doubles may come back as others. -/
theorem reread?_whole {n : Int} (hn : (whole n).FitsWord) : (whole n).reread? = some (whole n) := by
  obtain ⟨hlow, hhigh⟩ := hn
  have hroom : n.natAbs ≤ maxUnsigned := by
    unfold maxUnsigned at hhigh ⊢
    omega
  have hread := (NumberText.ofWhole n).readNumber?_chars (NumberText.digital_ofWhole n) stops_nil
  rw [List.append_nil, NumberText.chars_ofWhole] at hread
  unfold reread?
  rw [hread, Option.map_map]
  have hnumber : (NumberText.ofWhole n).number? = some (whole n) := by
    unfold NumberText.number? NumberText.ofWhole
    dsimp only
    rw [toDigits_wellFormed, if_neg Bool.false_ne_true, if_neg (by simp)]
    unfold buildNumber
    rw [wholeDigits_toDigits hroom]
    by_cases hneg : n < 0
    · have hsigned : (n.natAbs = 0 || decide (9223372036854775808 < n.natAbs)) = false := by
        simp
        omega
      have hvalue : -(n.natAbs : Int) = n := by omega
      simp only [decide_eq_true hneg, hsigned, hvalue]
      rfl
    · have hvalue : (n.natAbs : Int) = n := by omega
      simp only [decide_eq_false hneg, hvalue]
      rfl
  rw [hnumber]
  rfl

end Number

namespace Json

/-- The digits that are taken fit 64 bits, whatever is counted on the way. -/
theorem value_foldl_push (count : Bool → Nat → Nat) (ds : List Nat) {s : Significand} (n : Nat)
    (h : s.value ≤ maxUnsigned) :
    (ds.foldl (fun (s, n) d =>
      let s' := Significand.push s d
      (s', count s'.full n)) (s, n)).1.value ≤ maxUnsigned := by
  induction ds generalizing s n with
  | nil => exact h
  | cons d ds ih =>
    rw [List.foldl_cons]
    refine ih _ ?_
    unfold Significand.push
    split
    · exact h
    · rename_i hroom
      simp only [Bool.or_eq_true, decide_eq_true_eq, not_or] at hroom
      dsimp only
      omega

/-- What is taken before the point fits 64 bits, however many digits there are. -/
theorem value_wholeDigits (ds : List Nat) : (wholeDigits ds).1.value ≤ maxUnsigned :=
  value_foldl_push (fun full n => if full then n + 1 else n) ds 0 (Nat.zero_le _)

/-- A number that is built has 64 bits if it is whole, and else it is a double
in range. -/
theorem fitsWord_of_buildNumber {negative : Bool} {whole : List Nat} {fraction : Option (List Nat)}
    {exponent : Option Int} {n : Number}
    (h : buildNumber negative whole fraction exponent = some n) : n.FitsWord := by
  have hvalue := value_wholeDigits whole
  have hdouble : ∀ {significand : Nat} {exponent : Int},
      (scaleDouble negative significand exponent).map Number.double = some n → n.FitsWord := by
    intro significand exponent hn
    obtain ⟨x, hx, rfl⟩ := Option.map_eq_some_iff.1 hn
    exact inRange_of_scaleDouble hx
  unfold buildNumber at h
  cases fraction <;> cases exponent <;> dsimp only at h
  · split at h
    · exact hdouble h
    · split at h
      · cases h
        exact ⟨by omega, by exact_mod_cast hvalue⟩
      · split at h
        · obtain ⟨x, hx, rfl⟩ := Option.map_eq_some_iff.1 h
          exact (Binary64.nearest_eq_some Nat.one_pos hx).1.neg
        · rename_i hsigned
          cases h
          simp only [Bool.or_eq_true, decide_eq_true_eq, not_or] at hsigned
          have hpositive : (0 : Int) ≤ maxUnsigned := by omega
          exact ⟨by omega, by omega⟩
  all_goals exact hdouble h

/-- **A whole number that is read has 64 bits**, and a double is in range. -/
theorem fitsWord_of_readNumber? {cs rest : List Char} {n : Number}
    (h : readNumber? cs = some (n, rest)) : n.FitsWord := by
  have hbuilt : ∀ {negative : Bool} {whole : List Nat} {fraction : Option (List Nat)}
      {exponent : Option Int} {r : List Char},
      ((buildNumber negative whole fraction exponent).bind fun n => some (n, r)) = some (n, rest) →
        n.FitsWord := by
    intro negative whole fraction exponent r hn
    obtain ⟨n', hn', heq⟩ := Option.bind_eq_some_iff.1 hn
    cases heq
    exact fitsWord_of_buildNumber hn'
  have hexponent : ∀ {negative : Bool} {whole : List Nat} {fraction : Option (List Nat)}
      (cs : List Char),
      (match cs with
        | c :: after =>
          if (decide (c = 'e') || decide (c = 'E')) = true then
            (readExponent? after).bind fun p =>
              (buildNumber negative whole fraction (some p.1)).bind fun n => some (n, p.2)
          else (buildNumber negative whole fraction none).bind fun n => some (n, cs)
        | [] => (buildNumber negative whole fraction none).bind fun n => some (n, cs)) =
          some (n, rest) → n.FitsWord := by
    intro negative whole fraction cs hn
    split at hn
    · split at hn
      · obtain ⟨p, -, hn⟩ := Option.bind_eq_some_iff.1 hn
        exact hbuilt hn
      · exact hbuilt hn
    · exact hbuilt hn
  unfold readNumber? at h
  split at h
  dsimp only at h
  split at h
  · cases h
  simp only [Option.bind_eq_bind, Option.pure_def, Option.bind_some, Option.bind_map,
    Function.comp_def] at h
  split at h
  · split at h
    · cases h
    · exact hexponent _ h
  · exact hexponent _ h

end Json
end LedgerRules
