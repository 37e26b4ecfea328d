/-
# The first rule that matches gives the target

Rules are looked at one after the other, and looking stops as soon as both
targets are filled.  The stop changes nothing: nothing is left to fill in a
complete outcome, so what is proposed is what all rules that are active and
match make of it (`Outcome.extend_eq_foldl`).

The two targets are filled on their own.  What one of them takes from a rule is
said once, in `Slot`; it follows that each is that of the first rule which is
active, matches and carries it (`Slot.ofRules_eq`), as two searches would find
it.
-/

import LedgerRules.Outcome.Basic

namespace LedgerRules

/-- The first rule that is active, matches and carries a target.  Both targets
are searched for on their own, which is what *independent per field* means in
the specification. -/
def Rule.first? {β : Type} (target : Rule → Option β) (rules : List Rule) (facts : Facts) :
    Option Rule :=
  rules.find? fun r => r.active && r.matchesFacts facts && (target r).isSome

namespace Outcome

/-- What a rule makes of an outcome: each target that is open takes what the
rule carries. -/
theorem fill_eq (o : Outcome) (r : Rule) : o.fill r =
    { category := o.category.or r.category
      merchant := o.merchant.or r.merchant
      categoryRule := if o.category.isNone && r.category.isSome then some r.id else o.categoryRule
      merchantRule :=
        if o.merchant.isNone && r.merchant.isSome then some r.id else o.merchantRule } := by
  obtain ⟨category, merchant, categoryRule, merchantRule⟩ := o
  unfold fill
  dsimp only
  generalize r.category = c, r.merchant = m
  cases category <;> cases c <;> cases merchant <;> cases m <;> rfl

/-! ### Looking at all rules -/

/-- There is nothing to fill in a complete outcome, so a rule that is looked at
then changes nothing. -/
theorem fill_of_isComplete {o : Outcome} (h : o.isComplete = true) (r : Rule) : o.fill r = o := by
  obtain ⟨category, merchant, categoryRule, merchantRule⟩ := o
  unfold isComplete at h
  rw [Bool.and_eq_true, Option.isSome_iff_exists, Option.isSome_iff_exists] at h
  obtain ⟨⟨c, rfl⟩, m, rfl⟩ := h
  rfl

/-- Nor do all rules together; this is why `apply_rules` may stop. -/
theorem foldl_fill_of_isComplete {o : Outcome} (h : o.isComplete = true) (rules : List Rule) :
    rules.foldl fill o = o := by
  induction rules with
  | nil => rfl
  | cons r rules ih => rw [List.foldl_cons, fill_of_isComplete h, ih]

/-- **To stop early changes nothing**: the outcome is filled from all rules that
are active and match, in their order.  When both targets are filled, a further
rule has none left to fill. -/
theorem extend_eq_foldl (facts : Facts) (rules : List Rule) (o : Outcome) :
    o.extend facts rules =
      (rules.filter fun r => r.active && r.matchesFacts facts).foldl fill o := by
  induction rules generalizing o with
  | nil => rfl
  | cons r rules ih =>
    unfold extend
    split
    · rename_i hcomplete
      exact (foldl_fill_of_isComplete hcomplete _).symm
    · rw [List.filter_cons, ih, ih]
      split <;> rfl

/-! ### One target -/

/-- One of the two targets of an outcome with the rule that it is from, and what
a rule that is looked at makes of them.  Category and merchant go the same way,
so what holds of one slot is shown once. -/
structure Slot (β : Type) where
  value : Outcome → Option β
  rule : Outcome → Option Id
  carried : Rule → Option β
  value_nothing : value nothing = none
  rule_nothing : rule nothing = none
  value_fill : ∀ o r, value (o.fill r) = (value o).or (carried r)
  rule_fill : ∀ o r, rule (o.fill r) =
    if (value o).isNone && (carried r).isSome then some r.id else rule o

namespace Slot

/-- The category, with the rule that it is from.  The rules are searched for it
as if there were no merchants. -/
def category : Slot Int64 where
  value := Outcome.category
  rule := Outcome.categoryRule
  carried := Rule.category
  value_nothing := rfl
  rule_nothing := rfl
  value_fill o r := congrArg Outcome.category (o.fill_eq r)
  rule_fill o r := congrArg Outcome.categoryRule (o.fill_eq r)

/-- The merchant, with the rule that it is from.  It may be from another rule
than the category. -/
def merchant : Slot String where
  value := Outcome.merchant
  rule := Outcome.merchantRule
  carried := Rule.merchant
  value_nothing := rfl
  rule_nothing := rfl
  value_fill o r := congrArg Outcome.merchant (o.fill_eq r)
  rule_fill o r := congrArg Outcome.merchantRule (o.fill_eq r)

variable {β : Type} (s : Slot β)

/-- What rules make of a target: it stays if it is filled, and else it is that
of the first rule that carries it.  By induction on the rules, for any outcome
to begin with. -/
theorem foldl_fill (rules : List Rule) (o : Outcome) :
    s.value (rules.foldl fill o) =
        (s.value o).or ((rules.find? fun r => (s.carried r).isSome).bind s.carried) ∧
      s.rule (rules.foldl fill o) = if (s.value o).isSome then s.rule o
        else ((rules.find? fun r => (s.carried r).isSome).map (·.id)).or (s.rule o) := by
  induction rules generalizing o with
  | nil =>
    rw [List.foldl_nil, List.find?_nil]
    cases s.value o <;> simp
  | cons r rules ih =>
    obtain ⟨hvalue, hrule⟩ := ih (o.fill r)
    rw [List.foldl_cons, hvalue, hrule, s.value_fill, s.rule_fill, List.find?_cons]
    cases hr : s.carried r <;> cases ho : s.value o <;> simp [hr]

/-- **A target is that of the first rule that is active, matches and carries
it**, and it names that rule; without such a rule there is neither. -/
theorem ofRules_eq (rules : List Rule) (facts : Facts) :
    s.value (ofRules rules facts) = (Rule.first? s.carried rules facts).bind s.carried ∧
      s.rule (ofRules rules facts) = (Rule.first? s.carried rules facts).map (·.id) := by
  have hfirst : Rule.first? s.carried rules facts =
      (rules.filter fun r => r.active && r.matchesFacts facts).find? fun r =>
        (s.carried r).isSome := by
    rw [List.find?_filter]
    simp [Rule.first?]
  obtain ⟨hvalue, hrule⟩ := s.foldl_fill
    (rules.filter fun r => r.active && r.matchesFacts facts) nothing
  unfold ofRules
  rw [extend_eq_foldl, hvalue, hrule, ← hfirst, s.value_nothing, s.rule_nothing]
  exact ⟨Option.none_or, Option.or_none⟩

/-- Of rules behind others a target is taken if those others do not supply it. -/
theorem ofRules_append (xs ys : List Rule) (facts : Facts) :
    s.value (ofRules (xs ++ ys) facts) = (if (s.value (ofRules xs facts)).isSome
        then s.value (ofRules xs facts) else s.value (ofRules ys facts)) ∧
      s.rule (ofRules (xs ++ ys) facts) = if (s.value (ofRules xs facts)).isSome
        then s.rule (ofRules xs facts) else s.rule (ofRules ys facts) := by
  have hfirst : Rule.first? s.carried (xs ++ ys) facts =
      (Rule.first? s.carried xs facts).or (Rule.first? s.carried ys facts) := List.find?_append
  rw [(s.ofRules_eq _ facts).1, (s.ofRules_eq _ facts).2, (s.ofRules_eq xs facts).1,
    (s.ofRules_eq xs facts).2, (s.ofRules_eq ys facts).1, (s.ofRules_eq ys facts).2, hfirst]
  cases hx : Rule.first? s.carried xs facts with
  | none => simp
  | some r =>
    have hr := List.find?_some hx
    rw [Bool.and_eq_true] at hr
    rw [Option.some_or, Option.bind_some, if_pos hr.2, if_pos hr.2]
    exact ⟨rfl, rfl⟩

end Slot

/-- The outcome where an open target is filled from a later one, together with
the rule it is from.  A target that is filled is never replaced. -/
def orElse (o later : Outcome) : Outcome :=
  { category := if o.category.isSome then o.category else later.category
    categoryRule := if o.category.isSome then o.categoryRule else later.categoryRule
    merchant := if o.merchant.isSome then o.merchant else later.merchant
    merchantRule := if o.merchant.isSome then o.merchantRule else later.merchantRule }

end Outcome

/-- **The first match wins for each target.** The category that rules propose is
the one of the first rule in the list that is active, matches and carries a
category, and that rule is named with it; so it is with the merchant, whichever
rule the category is from.  Rules put behind others therefore supply the targets
that those leave open, and no other. -/
theorem first_match_gives_each_target (facts : Facts) :
    (∀ rules : List Rule,
      (Outcome.ofRules rules facts).category =
        (Rule.first? Rule.category rules facts).bind Rule.category ∧
      (Outcome.ofRules rules facts).categoryRule =
        (Rule.first? Rule.category rules facts).map Rule.id ∧
      (Outcome.ofRules rules facts).merchant =
        (Rule.first? Rule.merchant rules facts).bind Rule.merchant ∧
      (Outcome.ofRules rules facts).merchantRule =
        (Rule.first? Rule.merchant rules facts).map Rule.id) ∧
    ∀ xs ys : List Rule, Outcome.ofRules (xs ++ ys) facts =
      (Outcome.ofRules xs facts).orElse (Outcome.ofRules ys facts) := by
  constructor
  · intro rules
    obtain ⟨hcategory, hcategoryRule⟩ := Outcome.Slot.category.ofRules_eq rules facts
    obtain ⟨hmerchant, hmerchantRule⟩ := Outcome.Slot.merchant.ofRules_eq rules facts
    exact ⟨hcategory, hcategoryRule, hmerchant, hmerchantRule⟩
  · intro xs ys
    obtain ⟨hcategory, hcategoryRule⟩ := Outcome.Slot.category.ofRules_append xs ys facts
    obtain ⟨hmerchant, hmerchantRule⟩ := Outcome.Slot.merchant.ofRules_append xs ys facts
    refine (Outcome.mk.injEq ..).mpr ⟨hcategory, hmerchant, hcategoryRule, hmerchantRule⟩

end LedgerRules
