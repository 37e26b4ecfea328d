/-
# Proposals go by values

Conditions compare numbers by value, and an amount is seen by its size.  So
rules with bodies of equal value propose the same for transactions that agree in
value: the same targets, from rules with the same identifiers
(`bulkOutcome_congr`).  They even do so where facts agree only on the fields
that active rules look at (`Outcome.extend_congr`).
-/

import LedgerRules.Program.Rules
import LedgerRules.Proofs.Conditions.Fields
import LedgerRules.Proofs.Store.Rows

namespace LedgerRules

/-- Two sets of facts agree, amounts compared by value.  The places of an amount
are lost in the database, and no condition looks at them. -/
structure Facts.SameValue (facts facts' : Facts) : Prop where
  amount : Option.Rel (fun d d' : Decimal => d'.value = d.value) facts.amount facts'.amount
  others : facts' = { facts with amount := facts'.amount }

/-- Then they agree on every field, as far as a condition can tell. -/
theorem Facts.SameValue.agreeOn {facts facts' : Facts} (h : facts.SameValue facts') (f : Field) :
    facts.AgreeOn facts' f := by
  obtain ⟨hamount, hothers⟩ := h
  cases f with
  | text f =>
    show facts'.text? f = facts.text? f
    rw [hothers]
    cases f <;> rfl
  | numeric f =>
    cases f with
    | amount => exact hamount
    | direction =>
      show Option.Rel _ (facts.direction.map _) (facts'.direction.map _)
      rw [hothers]
      dsimp only
      cases facts.direction with
      | none => exact .none
      | some n => exact .some rfl

/-- The size of a decimal has the absolute value, so rules see the same of
amounts of equal value. -/
theorem Decimal.value_abs (d : Decimal) : d.abs.value = |d.value| := by
  unfold value abs
  rw [abs_div, abs_of_pos (tenPow_cast_pos d.scale), ← Int.cast_abs, ← Int.natCast_natAbs]

namespace Outcome

/-- **What rules propose depends on the fields that active rules look at**, and
goes by values.  Everything else of a transaction and its account may differ. -/
theorem extend_congr {facts facts' : Facts} {rules rules' : List Rule}
    (hf : ∀ r ∈ rules, r.active = true → ∀ c ∈ r.conditions.items, facts.AgreeOn facts' c.field)
    (h : List.Forall₂ Rule.SameValue rules rules') (o : Outcome) :
    o.extend facts' rules' = o.extend facts rules := by
  induction h generalizing o with
  | nil => rfl
  | @cons r r' rules rules' hr _ ih =>
    obtain ⟨hhead, htail⟩ := List.forall_mem_cons.1 hf
    have hactive : r'.active = r.active := by rw [hr.others]
    have hmatches : (r'.active && r'.matchesFacts facts') = (r.active && r.matchesFacts facts) := by
      rw [hactive]
      cases ha : r.active with
      | false => rfl
      | true => exact Conditions.holds_congr hr.conditions (hhead ha)
    have hfill : o.fill r' = o.fill r := by
      rw [hr.others]
      rfl
    unfold extend
    rw [hmatches, hfill, ih htail, ih htail]

end Outcome

namespace Transaction.SameValue

variable {close : Instant → Instant → Prop} {t t' : Transaction}

/-- What is made of the two by an update agrees in value again: an update that
names the amount gives both the same, and one that does not leaves both as they
are. -/
theorem apply (h : t.SameValue close t') (u : TransactionUpdate) :
    (u.apply t).SameValue close (u.apply t') := by
  obtain ⟨hamount, hupdated, hothers⟩ := h
  refine ⟨?_, hupdated, ?_⟩
  · show (u.amount.getD t'.amount).value = (u.amount.getD t.amount).value
    cases u.amount with
    | none => exact hamount
    | some a => rfl
  · rw [hothers]
    rfl

/-- Transactions that agree in value show rules facts that do. -/
theorem facts (h : t.SameValue close t') (account : Option AccountView) :
    (t.facts account).SameValue (t'.facts account) := by
  refine ⟨.some ?_, ?_⟩
  · rw [Decimal.value_abs, Decimal.value_abs, h.amount]
  · rw [h.others]
    rfl

end Transaction.SameValue

/-- Rules that agree in value are changed to rules that do. -/
theorem Rule.SameValue.apply {r r' : Rule} (h : r.SameValue r') (u : RuleUpdate)
    (conditions : Option Conditions) :
    (u.apply conditions r).SameValue (u.apply conditions r') := by
  obtain ⟨hconditions, hothers⟩ := h
  refine ⟨?_, ?_⟩
  · show (conditions.getD r'.conditions).sameValue (conditions.getD r.conditions) = true
    cases conditions with
    | none => exact hconditions
    | some c => exact (Rule.SameValue.refl { r with conditions := c }).conditions
  · rw [hothers]
    rfl

/-- **What a bulk run proposes goes by values**, so it is the same whichever
store the transactions and the rules were read from. -/
theorem Action.bulkOutcome_congr {close : Instant → Instant → Prop} {t t' : Transaction}
    (h : t.SameValue close t') {rules rules' : List Rule}
    (hr : List.Forall₂ Rule.SameValue rules rules') (includeManual : Bool)
    (account : Option AccountView) :
    bulkOutcome rules' includeManual t' account = bulkOutcome rules includeManual t account := by
  unfold bulkOutcome Outcome.ofRules
  rw [Outcome.extend_congr (fun _ _ _ c _ => (h.facts account).agreeOn c.field) hr, h.others]

end LedgerRules
