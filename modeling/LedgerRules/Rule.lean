/-
# Rules

A rule of a user gives a category, a merchant or both to the transactions that its
conditions match.  Rules are looked at by ascending priority.  A rule counts the
transactions it has classified.

Embeds `Rule`, `RuleSource`, `NewRule` and `RuleUpdate` (section 3 of the
specification, Data Model), with `Rule.has_target`, `Rule.matches`, `Rule.validate`
and `Rule.normalize_merchant`; the record that `RuleService.create_rule` builds and
the changes that `RuleService.update_rule` makes to one; and `targets`, the text of
what a rule gives.
-/

import LedgerRules.Transaction

namespace LedgerRules

/-- Where a rule came from. -/
inductive RuleSource
  | user
  | system
  deriving DecidableEq, Repr

/-- A rule of a user.  Its body is in normal form, and what it assigns is a
category, a merchant or both. -/
structure Rule where
  id : Id
  user : String
  name : String
  conditions : Conditions
  category : Option Int64 := none
  merchant : Option String := none
  active : Bool := true
  priority : Int32 := 0
  source : RuleSource := .user
  timesApplied : Int := 0
  lastAppliedAt : Option Instant := none
  createdAt : Instant
  updatedAt : Instant
  deriving DecidableEq, Repr

/-- A request for a new rule; its body is yet to be validated.  Without a
priority it is put behind the other rules. -/
structure NewRule where
  name : String
  conditions : Json
  category : Option Int64 := none
  merchant : Option String := none
  priority : Option Int32 := none
  source : Option RuleSource := none
  backfill : Bool := false
  deriving Repr

/-- What becomes of a target of a rule.  An update that does not name a target
keeps it, and one that names null clears it. -/
inductive TargetChange (α : Type)
  | keep
  | clear
  | set (value : α)
  deriving DecidableEq, Repr

/-- A request to change a rule; what is absent stays. -/
structure RuleUpdate where
  name : Option String := none
  conditions : Option Json := none
  category : TargetChange Int64 := .keep
  merchant : TargetChange String := .keep
  active : Option Bool := none
  priority : Option Int32 := none
  backfill : Bool := false
  deriving Repr

namespace RuleSource

/-- The written form. -/
def name : RuleSource → String
  | user => "user"
  | system => "system"

/-- The source with a written form. -/
def ofName? (s : String) : Option RuleSource := [user, system].find? (·.name == s)

end RuleSource

namespace TargetChange

/-- The target after a change. -/
def apply {α : Type} (old : Option α) : TargetChange α → Option α
  | keep => old
  | clear => none
  | set value => some value

/-- The change that sets a value, if there is one. -/
def ofOption {α : Type} : Option α → TargetChange α
  | some value => set value
  | none => keep

/-- Whether the target is changed at all. -/
def isChange {α : Type} : TargetChange α → Bool
  | keep => false
  | _ => true

/-- The value that is set. -/
def value? {α : Type} : TargetChange α → Option α
  | set value => some value
  | _ => none

end TargetChange

/-- Reads a rule body that is part of a record: only a valid one can be read. -/
def Json.asConditions? (j : Json) : Option Conditions := (Conditions.validate j).conditions?

namespace Rule

/-- Whether a rule gives anything at all.  One that does not is refused. -/
def hasTarget (r : Rule) : Bool := r.category.isSome || r.merchant.isSome

/-- Whether the conditions match, active or not. -/
def matchesFacts (r : Rule) (facts : Facts) : Bool := r.conditions.holds facts

/-- What is wrong with a rule (`Rule.validate`).  The name is looked at first.
-/
def complaint? (r : Rule) : Option Complaint :=
  if Text.isBlankText r.name then some .ruleNameBlank
  else if !r.hasTarget then some .ruleWithoutTarget
  else none

/-- The written form. -/
def toJson (r : Rule) : Json :=
  .object [("rule_id", .str r.id.text), ("user_id", .str r.user), ("rule_name", .str r.name),
    ("conditions", r.conditions.toJson), ("category_id", .ofInt64? r.category),
    ("merchant", .ofText? r.merchant), ("is_active", .bool r.active),
    ("priority_order", .ofInt r.priority.toInt), ("rule_source", .str r.source.name),
    ("times_applied", .ofInt r.timesApplied), ("last_applied_at", .ofInstant? r.lastAppliedAt),
    ("created_at", .str r.createdAt.text), ("updated_at", .str r.updatedAt.text)]

/-- The fields in their order. -/
def fields : Json.Decode Rule := do
  let id ← Json.required "rule_id" Json.asId?
  let user ← Json.required "user_id" Json.asText?
  let name ← Json.required "rule_name" Json.asText?
  let conditions ← Json.required "conditions" Json.asConditions?
  let category ← Json.optional "category_id" Json.asInt64?
  let merchant ← Json.optional "merchant" Json.asText?
  let active ← Json.required "is_active" Json.asBool?
  let priority ← Json.required "priority_order" Json.asInt32?
  let source ← Json.required "rule_source" (Json.asName? RuleSource.ofName?)
  let timesApplied ← Json.required "times_applied" Json.asSigned?
  let lastAppliedAt ← Json.optional "last_applied_at" Json.asInstant?
  let createdAt ← Json.required "created_at" Json.asInstant?
  let updatedAt ← Json.required "updated_at" Json.asInstant?
  return ⟨id, user, name, conditions, category, merchant, active, priority, source,
    timesApplied, lastAppliedAt, createdAt, updatedAt⟩

/-- Reads the written form. -/
def ofJson? : Json → Option Rule := Json.decode? fields

/-- The targets of a rule, in words. -/
def targetText (r : Rule) : String :=
  ", ".intercalate ((r.category.map fun c => s!"category {c.toInt}").toList ++
    (r.merchant.map fun m => s!"merchant '{m}'").toList)

end Rule

namespace NewRule

/-- The written form. -/
def toJson (new : NewRule) : Json :=
  .object [("rule_name", .str new.name), ("conditions", new.conditions),
    ("category_id", .ofInt64? new.category), ("merchant", .ofText? new.merchant),
    ("priority_order", .ofInt32? new.priority),
    ("rule_source", .ofText? (new.source.map RuleSource.name)), ("backfill", .bool new.backfill)]

/-- The fields in their order. -/
def fields : Json.Decode NewRule := do
  let name ← Json.required "rule_name" Json.asText?
  let conditions ← Json.required "conditions" Json.asAny?
  let category ← Json.optional "category_id" Json.asInt64?
  let merchant ← Json.optional "merchant" Json.asText?
  let priority ← Json.optional "priority_order" Json.asInt32?
  let source ← Json.optional "rule_source" (Json.asName? RuleSource.ofName?)
  let backfill ← Json.defaulted "backfill" false Json.asBool?
  return ⟨name, conditions, category, merchant, priority, source, backfill⟩

/-- Reads the written form. -/
def ofJson? : Json → Option NewRule := Json.decode? fields

/-- The rule that a request asks for, with the body it was accepted with.  It is
active, and it was never applied. -/
def rule (new : NewRule) (conditions : Conditions) (id : Id) (user : String) (priority : Int32)
    (now : Instant) : Rule :=
  { id, user, name := Text.trim new.name, conditions
    category := new.category
    merchant := normalizeMerchant new.merchant
    priority
    source := new.source.getD .user
    createdAt := now, updatedAt := now }

end NewRule

namespace RuleUpdate

/-- The fields in their order; a target that is null stays. -/
def fields : Json.Decode RuleUpdate := do
  let name ← Json.optional "rule_name" Json.asText?
  let conditions ← Json.optional "conditions" Json.asAny?
  let category ← Json.optional "category_id" Json.asInt64?
  let merchant ← Json.optional "merchant" Json.asText?
  let active ← Json.optional "is_active" Json.asBool?
  let priority ← Json.optional "priority_order" Json.asInt32?
  let backfill ← Json.defaulted "backfill" false Json.asBool?
  return ⟨name, conditions, .ofOption category, .ofOption merchant, active, priority, backfill⟩

/-- Reads the written form. -/
def ofJson? : Json → Option RuleUpdate := Json.decode? fields

/-- The rule after an update, with the body the update was accepted with if it
has one. -/
def apply (u : RuleUpdate) (conditions : Option Conditions) (r : Rule) : Rule :=
  { r with
    name := (u.name.map Text.trim).getD r.name
    conditions := conditions.getD r.conditions
    category := u.category.apply r.category
    merchant := match u.merchant with
      | .keep => r.merchant
      | .clear => none
      | .set m => normalizeMerchant (some m)
    active := u.active.getD r.active
    priority := u.priority.getD r.priority }

end RuleUpdate
end LedgerRules
