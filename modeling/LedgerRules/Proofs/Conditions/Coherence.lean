/-
# How operators go together

Each operator lowercases and compares on its own.  Read together, for a field
that is present, they keep the laws that their names promise: a negated test is
the negation, a text that equals a value starts and ends with it and so contains
it, and a number is below a bound, equal to it or above it (`TextTest.Coherent`,
`NumericTest.Coherent`).  A list of values to look for is short for a body that
looks for each of them and joins them by `or`.

Lowercasing is no obstacle, since all tests of one field and one setting see the
same text, and it acts on each value alone.  Nor is the number of places of a
decimal, since numbers are compared by value.  The laws need the field: if it is
absent, no test matches, neither one nor its negation.
-/

import LedgerRules.Proofs.Conditions.CaseBlind
import LedgerRules.Proofs.Conditions.Fields

namespace LedgerRules

/-- The laws of the tests on one text, where `matched` tells which of them
match.  Both ways of comparing have them: with case, and in lowercase. -/
structure TextTest.Coherent (matched : TextTest → Bool) : Prop where
  notEquals (v : String) : matched (.notEquals v) = !matched (.equals v)
  notContains (v : String) : matched (.notContains v) = !matched (.contains v)
  startsWith_of_equals (v : String) : matched (.equals v) = true → matched (.startsWith v) = true
  endsWith_of_equals (v : String) : matched (.equals v) = true → matched (.endsWith v) = true
  contains_of_startsWith (v : String) :
    matched (.startsWith v) = true → matched (.contains v) = true
  contains_of_endsWith (v : String) : matched (.endsWith v) = true → matched (.contains v) = true

/-- The laws of the tests on one number, where `matched` tells which of them
match.  They speak of values, so a decimal with more places but the same value
makes no difference. -/
structure NumericTest.Coherent (x : ℚ) (matched : NumericTest → Bool) : Prop where
  lessThan (v : Decimal) : matched (.lessThan v) = true ↔ x < v.value
  equals (v : Decimal) : matched (.equals v) = true ↔ x = v.value
  greaterThan (v : Decimal) : matched (.greaterThan v) = true ↔ v.value < x
  one_of_three (v : Decimal) :
    [NumericTest.lessThan v, .equals v, .greaterThan v].countP matched = 1
  notEquals (v : Decimal) : matched (.notEquals v) = !matched (.equals v)
  between (min max : Decimal) :
    matched (.between min max) = (!matched (.lessThan min) && !matched (.greaterThan max))

namespace Text

/-- A text starts with itself. -/
theorem startsWith_self (s : String) : startsWith s s = true :=
  startsWith_iff.2 (List.prefix_refl _)

/-- A text ends with itself. -/
theorem endsWith_self (s : String) : endsWith s s = true :=
  endsWith_iff.2 (List.suffix_refl _)

/-- What a text starts with it contains. -/
theorem contains_of_startsWith {s v : String} (h : startsWith s v = true) : contains s v = true :=
  contains_iff.2 (startsWith_iff.1 h).isInfix

/-- What a text ends with it contains. -/
theorem contains_of_endsWith {s v : String} (h : endsWith s v = true) : contains s v = true :=
  contains_iff.2 (endsWith_iff.1 h).isInfix

end Text

/-- **One text keeps the laws**, whether or not case counts.  Text and values
are lowercased alike, so the laws of comparing texts carry over. -/
theorem TextTest.coherent_passes (sensitive : Bool) (raw : String) :
    Coherent (passes sensitive raw) where
  notEquals _ := rfl
  notContains _ := rfl
  startsWith_of_equals v h := by
    simp only [passes, beq_iff_eq] at h ⊢
    rw [h]
    exact Text.startsWith_self _
  endsWith_of_equals v h := by
    simp only [passes, beq_iff_eq] at h ⊢
    rw [h]
    exact Text.endsWith_self _
  contains_of_startsWith _ h := Text.contains_of_startsWith h
  contains_of_endsWith _ h := Text.contains_of_endsWith h

/-- **One number keeps the laws**, with however many places it is written.
Decimals are compared by their values, which are ordered like any numbers. -/
theorem NumericTest.coherent_passes (x : Decimal) : Coherent x.value (passes x) where
  lessThan _ := Decimal.less_iff
  equals _ := Decimal.sameValue_iff
  greaterThan _ := Decimal.less_iff
  one_of_three v := by
    have hless : passes x (.lessThan v) = decide (x.value < v.value) :=
      Bool.eq_iff_iff.2 (Decimal.less_iff.trans (decide_eq_true_iff).symm)
    have hsame : passes x (.equals v) = decide (x.value = v.value) :=
      Bool.eq_iff_iff.2 (Decimal.sameValue_iff.trans (decide_eq_true_iff).symm)
    have hmore : passes x (.greaterThan v) = decide (v.value < x.value) :=
      Bool.eq_iff_iff.2 (Decimal.less_iff.trans (decide_eq_true_iff).symm)
    simp only [List.countP_cons, List.countP_nil, hless, hsame, hmore]
    rcases lt_trichotomy x.value v.value with h | h | h
    · simp [h, h.ne, h.not_gt]
    · simp [h]
    · simp [h, h.ne', h.not_gt]
  notEquals _ := rfl
  between _ _ := rfl

namespace Condition

/-- Where the text of a field is known, a condition on it tests that text, and
nothing else that is known matters. -/
theorem holds_text {facts : Facts} {f : TextField} {raw : String} (h : facts.text? f = some raw)
    (caseSensitive : Option Bool) : (fun t => (text f t caseSensitive).holds facts) =
      TextTest.passes (caseSensitive.getD false) raw := by
  funext t
  simp only [holds, h, Option.any_some]

/-- Where the number in a field is known, a condition on it tests that number. -/
theorem holds_numeric {facts : Facts} {f : NumericField} {x : Decimal}
    (h : facts.number? f = some x) :
    (fun t => (numeric f t).holds facts) = NumericTest.passes x := by
  funext t
  simp only [holds, h, Option.any_some]

/-- Looking for one of several values is a body with a condition for each of
them. -/
theorem holds_containsAny (facts : Facts) (f : TextField) (vs : List String)
    (caseSensitive : Option Bool) : (text f (.containsAny vs) caseSensitive).holds facts =
      (Conditions.mk .or (vs.map fun v => text f (.contains v) caseSensitive)).holds facts := by
  have hany : (vs.map fun v => text f (.contains v) caseSensitive).any (·.holds facts) =
      vs.any fun v => (text f (.contains v) caseSensitive).holds facts := List.any_map
  unfold Conditions.holds
  rw [hany, List.isEmpty_map]
  cases hraw : facts.text? f with
  | none => simp [holds, hraw]
  | some raw => cases vs <;> simp [holds, hraw, TextTest.passes]

end Condition

/-- **Operators go together.** Whatever is known of a transaction, the tests on
a text that is present keep the laws of `TextTest.Coherent`, for any value and
however case counts, and those on a number that is present the laws of
`NumericTest.Coherent`.  A test for several values matches exactly where a body
does that joins one test for each of them by `or`.  No condition on an absent
field matches. -/
theorem operators_are_coherent (facts : Facts) :
    (∀ (f : TextField) (caseSensitive : Option Bool), facts.Has (.text f) →
      TextTest.Coherent fun t => (Condition.text f t caseSensitive).holds facts) ∧
    (∀ (f : TextField) (caseSensitive : Option Bool) (vs : List String),
      (Condition.text f (.containsAny vs) caseSensitive).holds facts = (Conditions.mk .or
        (vs.map fun v => .text f (.contains v) caseSensitive)).holds facts) ∧
    (∀ (f : NumericField) (x : Decimal), facts.number? f = some x →
      NumericTest.Coherent x.value fun t => (Condition.numeric f t).holds facts) ∧
    ∀ c : Condition, ¬facts.Has c.field → c.holds facts = false := by
  refine ⟨fun f caseSensitive h => ?_, fun f caseSensitive vs => ?_, fun f x h => ?_,
    fun c habsent => ?_⟩
  · obtain ⟨raw, hraw⟩ := Option.isSome_iff_exists.1 h
    rw [Condition.holds_text hraw]
    exact TextTest.coherent_passes _ _
  · exact Condition.holds_containsAny facts f vs caseSensitive
  · rw [Condition.holds_numeric h]
    exact NumericTest.coherent_passes x
  · exact Bool.eq_false_iff.2 (mt Condition.has_of_holds habsent)

namespace Sample

/-- A purchase of which the shop and the amount are known. -/
def breakfast : Facts :=
  { merchant := some "Bäckerei Sol", amount := some ⟨45, 1, by decide, by decide⟩ }

/-- What breakfast costs, with more places. -/
def breakfastPrice : Decimal := ⟨450, 2, by decide, by decide⟩

end Sample

/-- The name of the shop starts with its first word and so contains it, the
amount is neither below nor above the price, however many places the price has,
and the missing note matches nothing. -/
theorem breakfast_is_coherent :
    Sample.breakfast.Has (.text .merchant) ∧
      (Condition.text .merchant (.startsWith "BÄCKEREI") none).holds Sample.breakfast = true ∧
      (Condition.text .merchant (.contains "BÄCKEREI") none).holds Sample.breakfast = true ∧
      Sample.breakfast.number? .amount = some ⟨45, 1, by decide, by decide⟩ ∧
      (Condition.numeric .amount (.between Sample.breakfastPrice Sample.breakfastPrice)).holds
        Sample.breakfast = true ∧
      ¬Sample.breakfast.Has (.text .description) ∧
      (Condition.text .description (.notContains "bread") none).holds Sample.breakfast = false := by
  obtain ⟨htexts, -, hnumbers, habsent⟩ := operators_are_coherent Sample.breakfast
  have hstarts : (Condition.text .merchant (.startsWith "BÄCKEREI") none).holds Sample.breakfast =
      true := by decide +kernel
  have hamount := hnumbers .amount ⟨45, 1, by decide, by decide⟩ rfl
  have hneither : (Condition.numeric .amount (.lessThan Sample.breakfastPrice)).holds
        Sample.breakfast = false ∧
      (Condition.numeric .amount (.greaterThan Sample.breakfastPrice)).holds
        Sample.breakfast = false := by decide +kernel
  refine ⟨rfl, hstarts, (htexts .merchant none rfl).contains_of_startsWith _ hstarts, rfl, ?_,
    nofun, habsent (.text .description _ none) nofun⟩
  rw [hamount.between, hneither.1, hneither.2]
  rfl

end LedgerRules
