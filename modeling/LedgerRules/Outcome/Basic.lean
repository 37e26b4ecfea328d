/-
# What rules propose

An outcome holds what a list of rules proposes for one transaction.  Its two
targets are filled on their own: each comes from the first active rule that
matches and carries it.  No rule is looked at once both are filled.

Embeds `RuleOutcome` with `is_empty`, `is_complete`, `without_manual_targets`
and `contributing_rules`, and `apply_rules` (section 4.4 of the specification,
Application Policy).
-/

import LedgerRules.Rule

namespace LedgerRules

/-- What rules propose for a transaction, and which rules did (`RuleOutcome`).
-/
structure Outcome where
  category : Option Int64 := none
  merchant : Option String := none
  categoryRule : Option Id := none
  merchantRule : Option Id := none
  deriving DecidableEq, Repr

namespace Outcome

/-- The outcome without a proposal. -/
def nothing : Outcome := {}

/-- Whether nothing is proposed. -/
def isEmpty (o : Outcome) : Bool := o.category.isNone && o.merchant.isNone

/-- Whether both targets are proposed. -/
def isComplete (o : Outcome) : Bool := o.category.isSome && o.merchant.isSome

/-- Fills the targets that are still open from a rule.  A target that is filled
keeps its value and its rule. -/
def fill (o : Outcome) (rule : Rule) : Outcome :=
  let o := match o.category, rule.category with
    | none, some c => { o with category := some c, categoryRule := some rule.id }
    | _, _ => o
  match o.merchant, rule.merchant with
  | none, some m => { o with merchant := some m, merchantRule := some rule.id }
  | _, _ => o

/-- Goes on filling from rules in order, until there is nothing left to fill.
Rules that are not active or do not match are passed over. -/
def extend (facts : Facts) (o : Outcome) : List Rule → Outcome
  | [] => o
  | rule :: rest =>
    if o.isComplete then o
    else if rule.active && rule.matchesFacts facts then extend facts (o.fill rule) rest
    else extend facts o rest

/-- What rules propose, looked at in order. -/
def ofRules (rules : List Rule) (facts : Facts) : Outcome := nothing.extend facts rules

/-- The outcome without the targets that were set by hand, and without their
rules, so that these are not counted. -/
def withoutManual (o : Outcome) (categoryManual merchantManual : Bool) : Outcome :=
  { category := if categoryManual then none else o.category
    merchant := if merchantManual then none else o.merchant
    categoryRule := if categoryManual then none else o.categoryRule
    merchantRule := if merchantManual then none else o.merchantRule }

/-- The rules that proposed something, each once.  An application is counted for
each. -/
def contributing (o : Outcome) : List Id :=
  match o.categoryRule, o.merchantRule with
  | some a, some b => if a = b then [a] else [a, b]
  | a, b => a.toList ++ b.toList

/-- The written form; a rule is left out where it is not known. -/
def toJson (o : Outcome) : Json :=
  .object ([("category_id", .ofInt64? o.category), ("merchant", .ofText? o.merchant)] ++
    Json.memberIf "category_rule_id" (o.categoryRule.map fun id => .str id.text) ++
    Json.memberIf "merchant_rule_id" (o.merchantRule.map fun id => .str id.text))

/-- The fields in their order. -/
def fields : Json.Decode Outcome := do
  let category ← Json.optional "category_id" Json.asInt64?
  let merchant ← Json.optional "merchant" Json.asText?
  let categoryRule ← Json.optional "category_rule_id" Json.asId?
  let merchantRule ← Json.optional "merchant_rule_id" Json.asId?
  return ⟨category, merchant, categoryRule, merchantRule⟩

/-- Reads the written form. -/
def ofJson? : Json → Option Outcome := Json.decode? fields

end Outcome
end LedgerRules
