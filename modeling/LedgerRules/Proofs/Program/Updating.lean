/-
# The parts of an update

An update reads the rule, works out what becomes of it, and stores that
(`Action.updateRule_eq`).  What is said of updates is said of these parts, so
that the last one is looked at once, whether the update comes with conditions or
leaves them as they are.
-/

import LedgerRules.Program.Rules

namespace LedgerRules

/-- How an update goes on once it has worked out the rule: the rule is checked,
stamped and written, and a backfill follows where one is asked for. -/
def Action.storeRule (user : String) (rule : Rule) (backfill includeManual : Bool) :
    Action RuleChange := do
  refuse rule.complaint?
  let rule := { rule with updatedAt := ← now }
  call (.updateRule rule)
  record (Event.about Event.ruleUpdated rule.id)
  finishChange user rule backfill includeManual

/-- How an update goes on once it has read the rule: a new body is validated
first, and then all fields are put in. -/
def Action.changeRule (user : String) (u : RuleUpdate) (includeManual : Bool) (old : Rule) :
    Action RuleChange := do
  let conditions ← match u.conditions with
    | some body => some <$> checkedConditions body
    | none => pure none
  storeRule user (u.apply conditions old) u.backfill includeManual

/-- An update reads the rule and then changes it; what comes in between in an
interleaving comes between these two. -/
theorem Action.updateRule_eq (user : String) (id : Id) (u : RuleUpdate) (includeManual : Bool) :
    updateRule user id u includeManual = getRule user id >>= changeRule user u includeManual := rfl

end LedgerRules
