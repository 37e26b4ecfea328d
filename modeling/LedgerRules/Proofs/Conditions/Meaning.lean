/-
# A body and its normal form match alike

The values of a test that ignores case are lowercased when a body is brought to
normal form, and once more whenever the test is made.  The second time changes
nothing, because the lowercase of a text is its own lowercase
(`Text.lower_lower`), so a test compares the same texts before and after.  A
pattern and a value whose case counts are left alone, and an absent flag says
the same as the `false` that stands in the normal form.

What a condition matches is therefore what its normal form matches, fact by
fact, and a body only joins its conditions (`normal_form_keeps_meaning`).
-/

import LedgerRules.Conditions.Evaluation
import LedgerRules.Proofs.Conditions.WireForm

namespace LedgerRules

/-- A test that ignores case cannot tell its values from their lowercase, since
it takes their lowercase itself; a pattern is not lowered and matches as before. -/
theorem TextTest.passes_lowered (raw : String) (t : TextTest) :
    t.lowered.passes false raw = t.passes false raw := by
  cases t with
  | containsAny values =>
    have hvalue : ∀ v, Text.contains (Text.lower raw) (Text.lower (Text.lower v)) =
        Text.contains (Text.lower raw) (Text.lower v) := fun v => by rw [Text.lower_lower]
    show (values.map Text.lower).any (fun v => Text.contains _ (Text.lower v)) = _
    rw [List.any_map]
    exact congrArg values.any (funext hvalue)
  | regex pattern => rfl
  | _ v => simp [lowered, mapValues, passes, Text.lower_lower]

/-- **A condition matches what its normal form matches**, with its flag as it
is: absent, it comes out as false, which it counted as. -/
theorem Condition.holds_normalize (facts : Facts) (c : Condition) :
    c.normalize.holds facts = c.holds facts := by
  cases c with
  | numeric f t => rfl
  | text f t caseSensitive =>
    have hpasses : ∀ raw,
        (if caseSensitive.getD false then t else t.lowered).passes (caseSensitive.getD false) raw =
          t.passes (caseSensitive.getD false) raw := by
      intro raw
      cases caseSensitive.getD false with
      | false => exact t.passes_lowered raw
      | true => rfl
    rw [normalize_text]
    exact congrArg (facts.text? f).any (funext hpasses)

/-- The normal form of a body is its own normal form. -/
theorem Conditions.normalize_normalize (c : Conditions) : c.normalize.normalize = c.normalize := by
  have hitem : Condition.normalize ∘ Condition.normalize = Condition.normalize :=
    funext Condition.normalize_normalize
  unfold normalize
  rw [List.map_map, hitem]

/-- **The normal form of a body keeps its meaning**, however the body was made:
it matches the facts that the body matches, and it is its own normal form. -/
theorem normal_form_keeps_meaning (c : Conditions) :
    (∀ facts, c.normalize.holds facts = c.holds facts) ∧ c.normalize.normalize = c.normalize := by
  refine ⟨fun facts => ?_, c.normalize_normalize⟩
  have hitem : ∀ x : Condition, x.normalize.holds facts = x.holds facts :=
    Condition.holds_normalize facts
  unfold Conditions.normalize Conditions.holds
  simp only [List.isEmpty_map, List.all_map, List.any_map, Function.comp_def, hitem]

/-- The sigma at the end of a word has a form of its own, and a capital `İ`
becomes two characters: neither is touched a second time. -/
example : (Conditions.mk .or [.text .merchant (.equals "ΟΔΟΣ") none,
      .text .bank (.containsAny ["İŞ", "Σ"]) (some false)]).normalize =
    ⟨.or, [.text .merchant (.equals "οδος") (some false),
      .text .bank (.containsAny ["i\u0307ş", "σ"]) (some false)]⟩ := by
  decide +kernel

end LedgerRules
