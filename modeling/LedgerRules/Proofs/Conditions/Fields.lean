/-
# What conditions look at

A condition looks at one field of a transaction and its account, and at nothing
else.  So a body matches alike wherever the fields agree that its conditions
name, and numbers only have to agree in value, in the fields as in the body
(`Conditions.holds_congr`).
-/

import LedgerRules.Conditions.Evaluation
import LedgerRules.Proofs.Conditions.WireForm
import LedgerRules.Proofs.Number.Value

namespace LedgerRules

/-- Two sets of facts agree on a field, a number being compared by value.  A
field that is absent from one has to be absent from the other. -/
def Facts.AgreeOn (facts facts' : Facts) : Field → Prop
  | .text f => facts'.text? f = facts.text? f
  | .numeric f => Option.Rel (fun d d' : Decimal => d'.value = d.value) (facts.number? f)
      (facts'.number? f)

/-- A field is present, so that a condition on it can match at all.  It may be
an empty text and still be present. -/
def Facts.Has (facts : Facts) : Field → Prop
  | .text f => (facts.text? f).isSome = true
  | .numeric f => (facts.number? f).isSome = true

/-- What differs in the merchant alone agrees on all other fields. -/
theorem Facts.agreeOn_of_ne_merchant {f : Field} (hf : f ≠ .text .merchant) (facts : Facts)
    (merchant : Option String) : facts.AgreeOn { facts with merchant } f := by
  have hsame : ∀ d : Option Decimal, Option.Rel (fun d d' : Decimal => d'.value = d.value) d d :=
    fun d => by cases d <;> constructor; rfl
  cases f with
  | text f =>
    cases f with
    | merchant => exact absurd rfl hf
    | _ => rfl
  | numeric f => cases f <;> exact hsame _

namespace Decimal

/-- Whether two decimals are equal goes by their values. -/
theorem sameValue_congr {a a' b b' : Decimal} (ha : a'.value = a.value) (hb : b'.value = b.value) :
    a'.sameValue b' = a.sameValue b := by
  rw [Bool.eq_iff_iff, sameValue_iff, sameValue_iff, ha, hb]

/-- Which of two decimals is less goes by their values. -/
theorem less_congr {a a' b b' : Decimal} (ha : a'.value = a.value) (hb : b'.value = b.value) :
    a'.less b' = a.less b := by
  rw [Bool.eq_iff_iff, less_iff, less_iff, ha, hb]

end Decimal

namespace NumericTest

/-- A test goes by values: those of its own numbers and that of the number it is
made on. -/
theorem passes_congr {t t' : NumericTest} {v v' : Decimal} (ht : t'.sameValue t = true)
    (hv : v'.value = v.value) : t'.passes v' = t.passes v := by
  cases t <;> cases t' <;> try cases ht
  case between.between a b a' b' =>
    obtain ⟨ha, hb⟩ := (Bool.and_eq_true _ _).mp ht
    rw [Decimal.sameValue_iff] at ha hb
    simp only [passes, Decimal.atMost, Decimal.less_congr hv ha, Decimal.less_congr hb hv]
  all_goals
    have ht := Decimal.sameValue_iff.1 ht
    simp only [passes, Decimal.sameValue_congr hv ht, Decimal.less_congr hv ht,
      Decimal.less_congr ht hv]

end NumericTest

/-- **A condition looks at its field alone.** The numbers in it count by value.
-/
theorem Condition.holds_congr {c c' : Condition} {facts facts' : Facts}
    (hc : c'.sameValue c = true) (hf : facts.AgreeOn facts' c.field) :
    c'.holds facts' = c.holds facts := by
  cases c with
  | text f t caseSensitive =>
    cases c' with
    | text f' t' caseSensitive' =>
      simp only [sameValue, Bool.and_eq_true, beq_iff_eq] at hc
      obtain ⟨⟨rfl, rfl⟩, rfl⟩ := hc
      have htext : facts'.text? f' = facts.text? f' := hf
      show (facts'.text? f').any _ = (facts.text? f').any _
      rw [htext]
    | numeric f' t' => cases hc
  | numeric f t =>
    cases c' with
    | text f' t' caseSensitive => cases hc
    | numeric f' t' =>
      simp only [sameValue, Bool.and_eq_true, beq_iff_eq] at hc
      obtain ⟨rfl, ht⟩ := hc
      have hnumber : Option.Rel (fun d d' : Decimal => d'.value = d.value) (facts.number? f')
          (facts'.number? f') := hf
      show (facts'.number? f').any _ = (facts.number? f').any _
      generalize facts.number? f' = number at hnumber ⊢
      generalize facts'.number? f' = number' at hnumber ⊢
      cases hnumber with
      | none => rfl
      | some hv => exact NumericTest.passes_congr ht hv

/-- **A condition matches only where its field is present**, whatever its
operator.  So `not_equals` does not match a field that is absent. -/
theorem Condition.has_of_holds {c : Condition} {facts : Facts} (h : c.holds facts = true) :
    facts.Has c.field := by
  cases c with
  | text f t caseSensitive =>
    obtain ⟨raw, hraw, -⟩ := (Option.any_eq_true ..).1 h
    exact Option.isSome_of_eq_some hraw
  | numeric f t =>
    obtain ⟨value, hvalue, -⟩ := (Option.any_eq_true ..).1 h
    exact Option.isSome_of_eq_some hvalue

/-- **A body looks at the fields of its conditions alone.** What is not named in
it may differ, for `AND` as for `OR`. -/
theorem Conditions.holds_congr {c c' : Conditions} {facts facts' : Facts}
    (hc : c'.sameValue c = true) (hf : ∀ x ∈ c.items, facts.AgreeOn facts' x.field) :
    c'.holds facts' = c.holds facts := by
  obtain ⟨hlogic, hitems⟩ := Conditions.sameValue_iff.1 hc
  have hitems := (List.forall₂_and_left _ _).2 ⟨hf, hitems.flip⟩
  have hholds : ∀ x x' : Condition, facts.AgreeOn facts' x.field ∧ x'.sameValue x = true →
      x.holds facts = x'.holds facts' := fun _ _ hx => (Condition.holds_congr hx.2 hx.1).symm
  have hempty : c'.items.isEmpty = c.items.isEmpty := by
    rw [Bool.eq_iff_iff, List.isEmpty_iff_length_eq_zero, List.isEmpty_iff_length_eq_zero,
      hitems.length_eq]
  have hall : c.items.all (·.holds facts) = c'.items.all (·.holds facts') := by
    rw [List.all_eq_not_any_not, List.all_eq_not_any_not]
    exact congrArg (!·) (any_of_forall₂ (fun x x' hx => congrArg (!·) (hholds x x' hx)) hitems)
  unfold Conditions.holds
  rw [hlogic, hempty, hall, any_of_forall₂ hholds hitems]

end LedgerRules
