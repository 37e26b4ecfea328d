/-
# Operations on rules

Creating, changing and deleting rules, and applying them to stored transactions.

A rule body is validated and kept in normal form.  A rule without a priority of
its own runs after the rules its user has.  A *backfill* applies all active
rules of the user to all stored transactions once the rule is stored.

Application never writes a target that was set by hand, unless a bulk run is
told to.  A bulk run writes once for each pair of a category and a merchant; a
write that fails is put on record and the others go on.

Embeds the methods of `RuleService`: `create_rule`, `update_rule`,
`finish_change`, `set_active`, `delete_rule`, `get_rule` and `list_rules`
(section 14 of the specification, Rule Management), `apply_to_transaction`
(section 4.4) and `apply_to_existing` with `record_usage` (section 4.5).
-/

import LedgerRules.Program.Basic

namespace LedgerRules

/-- What a bulk run did. -/
structure BulkSummary where
  rulesEvaluated : Nat := 0
  transactionsEvaluated : Nat := 0
  transactionsMatched : Nat := 0
  groupsWritten : Nat := 0
  groupsFailed : Nat := 0
  updated : Nat := 0
  deriving DecidableEq, Repr

/-- A rule that was created or changed, and what the backfill did if there was
one. -/
structure RuleChange where
  rule : Rule
  backfill : Option BulkSummary
  deriving DecidableEq, Repr

namespace BulkSummary

/-- The written form. -/
def toJson (s : BulkSummary) : Json :=
  .object [("rules_evaluated", .ofNat s.rulesEvaluated),
    ("transactions_evaluated", .ofNat s.transactionsEvaluated),
    ("transactions_matched", .ofNat s.transactionsMatched),
    ("groups_written", .ofNat s.groupsWritten), ("groups_failed", .ofNat s.groupsFailed),
    ("updated_count", .ofNat s.updated)]

end BulkSummary

namespace RuleChange

/-- The written form; the backfill is left out if there was none. -/
def toJson (c : RuleChange) : Json :=
  .object ([("rule", c.rule.toJson)] ++
    Json.memberIf "backfill" (c.backfill.map BulkSummary.toJson))

end RuleChange

namespace Action

/-! ### Reading rules -/

/-- Notices every rule that was skipped and returns the others.  One row that
cannot be read does not keep the rest from being used. -/
def noticeSkipped (listing : Listing) : Action (List Rule) := do
  listing.skipped.forM notice
  return listing.rules

/-- All rules of a user, in the order they are looked at. -/
def listRules (user : String) : Action (List Rule) := do
  noticeSkipped (← call (.listRules user))

/-- The active rules of a user, in the order they are looked at. -/
def activeRules (user : String) : Action (List Rule) := do
  noticeSkipped (← call (.activeRules user))

/-- A rule of a user (`RuleService.get_rule`).  Unlike in a listing, a row that
cannot be read is an error here. -/
def getRule (user : String) (id : Id) : Action Rule := do
  match ← call (.getRule user id) with
  | some rule => return rule
  | none => throw (.missing (.rule id))

/-! ### Applying rules -/

/-- Counts applications of rules, in the order of their identifiers; a failure
is put on record and undoes nothing. -/
def recordUsage (usage : Usage) : Action Unit := do
  let at_ ← now
  usage.forM fun (rule, count) => do
    match ← tryCall (.recordApplications rule count at_) with
    | .ok _ => return ()
    | .error e => record { Event.about Event.rulesApplied rule with
        error := some s!"failed to record rule usage: {e.message}" }

/-- Applies the active rules to one transaction and writes the targets that were
not set by hand (`RuleService.apply_to_transaction`); returns what was written.
-/
def applyToTransaction (user : String) (id : Id) : Action Outcome := do
  let some t ← call (.getTransaction user id) | throw (.missing (.transaction id))
  if t.fullyManual then return .nothing
  let rules ← activeRules user
  let account ← call (.accountView user t.account)
  let outcome := (Outcome.ofRules rules (t.facts account)).withoutManual t.categoryManual
    t.merchantManual
  if outcome.isEmpty then return outcome
  let updated ← call (.assign user outcome.category outcome.merchant [t.id] (← now))
  if updated ≠ 0 then
    recordUsage (outcome.contributing.foldl (fun usage rule => usage.add rule updated) [])
  return outcome

/-- The accounts that were looked up so far; an account that is not there is
known too. -/
abbrev KnownAccounts := List (Id × Option AccountView)

/-- What rules see of an account, looked up at most once. -/
def lookUpAccount (user : String) (known : KnownAccounts) (id : Id) :
    Action (Option AccountView × KnownAccounts) :=
  match known.lookup id with
  | some view => return (view, known)
  | none => do
    let view ← call (.accountView user id)
    return (view, (id, view) :: known)

/-- What rules propose for a transaction in a bulk run.  Where transactions set
by hand are included, the marks are not looked at. -/
def bulkOutcome (rules : List Rule) (includeManual : Bool) (t : Transaction)
    (account : Option AccountView) : Outcome :=
  let outcome := Outcome.ofRules rules (t.facts account)
  if includeManual then outcome else outcome.withoutManual t.categoryManual t.merchantManual

/-- What rules propose for each transaction in a bulk run. -/
def bulkOutcomes (user : String) (rules : List Rule) (includeManual : Bool) :
    KnownAccounts → List Transaction → Action (List (Id × Outcome))
  | _, [] => return []
  | known, t :: rest => do
    let (account, known) ← lookUpAccount user known t.account
    let more ← bulkOutcomes user rules includeManual known rest
    return (t.id, bulkOutcome rules includeManual t account) :: more

/-- Writes groups one by one; returns the summary with the writes counted, and
the usage of the groups that were written.  A group that fails is put on record
and does not stop the others. -/
def writeGroups (user : String) : BulkSummary → Usage → List Group → Action (BulkSummary × Usage)
  | summary, usage, [] => return (summary, usage)
  | summary, usage, g :: rest => do
    match ← tryCall (.assign user g.category g.merchant g.transactions (← now)) with
    | .ok updated =>
      writeGroups user { summary with
        groupsWritten := summary.groupsWritten + 1
        updated := summary.updated + updated } (usage.merge g.usage) rest
    | .error e => do
      record { Event.counted Event.groupFailed g.transactions.length with error := some e.message }
      writeGroups user { summary with groupsFailed := summary.groupsFailed + 1 } usage rest

/-- Applies the active rules to the stored transactions of a user, or to those
among `ids` (`RuleService.apply_to_existing`).  Without active rules there is
nothing to look at, and nothing is counted. -/
def applyToExisting (user : String) (ids : Option (List Id)) (includeManual : Bool) :
    Action BulkSummary := do
  let rules ← activeRules user
  if rules.isEmpty then return {}
  let transactions : List Transaction ← call (.eligible user ids includeManual)
  let outcomes ← bulkOutcomes user rules includeManual [] transactions
  let groups := Group.ofOutcomes outcomes
  let summary : BulkSummary :=
    { rulesEvaluated := rules.length
      transactionsEvaluated := transactions.length
      transactionsMatched := (groups.flatMap (·.transactions)).length }
  let (summary, usage) ← writeGroups user summary [] groups
  recordUsage usage
  record (Event.counted Event.rulesApplied summary.updated)
  return summary

/-! ### Changing rules -/

/-- The conditions of a body, if it is valid. -/
def checkedConditions (body : Json) : Action Conditions :=
  match Conditions.validate body with
  | .accepted c => pure c
  | .rejected faults => throw (.conditions faults)

/-- Runs the backfill if it was asked for; the rule is read again, because the
backfill counts its applications. -/
def finishChange (user : String) (rule : Rule) (backfill includeManual : Bool) :
    Action RuleChange := do
  if !backfill then return ⟨rule, none⟩
  let summary ← applyToExisting user none includeManual
  let stored ← call (.getRule user rule.id)
  return ⟨stored.getD rule, some summary⟩

/-- One past a priority.  Past the greatest number of 32 bits there is none: the
sum overflows, and the operation breaks off. -/
def onePast (p : Int32) : Action Int32 :=
  if p = Int32.maxValue then throw .overflow else return p + 1

/-- The priority of a new rule: the one it asks for, or one past the greatest of
its user. -/
def newPriority (user : String) (priority : Option Int32) : Action Int32 := do
  match priority with
  | some p => return p
  | none =>
    match ← call (.maxPriority user) with
    | some greatest => onePast greatest
    | none => return 0

/-- Creates a rule (`RuleService.create_rule`).  The body is checked first, then
the priority is worked out, and then the rule as a whole is checked; nothing is
stored before that. -/
def createRule (user : String) (new : NewRule) (backfillIncludesManual : Bool) :
    Action RuleChange := do
  let conditions ← checkedConditions new.conditions
  let id ← freshId
  let at_ ← now
  let rule := new.rule conditions id user (← newPriority user new.priority) at_
  refuse rule.complaint?
  call (.insertRule rule)
  record (Event.about Event.ruleCreated rule.id)
  finishChange user rule new.backfill backfillIncludesManual

/-- Changes a rule (`RuleService.update_rule`).  The rule that was read is
written back as a whole, with what the update names. -/
def updateRule (user : String) (id : Id) (update : RuleUpdate) (backfillIncludesManual : Bool) :
    Action RuleChange := do
  let old ← getRule user id
  let conditions ← match update.conditions with
    | some body => some <$> checkedConditions body
    | none => pure none
  let rule := update.apply conditions old
  refuse rule.complaint?
  let rule := { rule with updatedAt := ← now }
  call (.updateRule rule)
  record (Event.about Event.ruleUpdated rule.id)
  finishChange user rule update.backfill backfillIncludesManual

/-- Switches a rule on or off (`RuleService.set_active`), by an update that
names nothing else and asks for no backfill. -/
def setActive (user : String) (id : Id) (active : Bool) : Action Rule := do
  let change ← updateRule user id { active := some active } false
  return change.rule

/-- Deletes a rule (`RuleService.delete_rule`).  It is not read before, so one
whose body is not accepted can be deleted too. -/
def deleteRule (user : String) (id : Id) : Action Unit := do
  if ← call (.deleteRule user id) then record (Event.about Event.ruleDeleted id)
  else throw (.missing (.rule id))

end Action
end LedgerRules
