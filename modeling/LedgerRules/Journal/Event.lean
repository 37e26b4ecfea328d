/-
# Events

An event says what was done: its name, and where it applies the command that did
it, the rule it is about, how many records it touched, and what went wrong.  It
holds no merchant, no description, no amount and no rule body.

Embeds `LogEvent` with its builders `with_command`, `with_rule`, `with_count`
and `with_error`, the names in `events`, and `EntryPoint` (section 10 of the
specification, Logging).
-/

import LedgerRules.Json.Decode

namespace LedgerRules

/-- Something to be put on record. -/
structure Event where
  name : String
  command : Option String := none
  rule : Option String := none
  count : Option Int := none
  error : Option String := none
  deriving DecidableEq, Repr

namespace Event

/-- A rule was created. -/
def ruleCreated : String := "rule_created"

/-- A rule was changed. -/
def ruleUpdated : String := "rule_updated"

/-- A rule was deleted. -/
def ruleDeleted : String := "rule_deleted"

/-- Rules were applied to many transactions. -/
def rulesApplied : String := "rules_applied"

/-- A group could not be written. -/
def groupFailed : String := "rule_group_update_failed"

/-- A command was run. -/
def commandExecuted : String := "command_executed"

/-- An event about a rule. -/
def about (name : String) (rule : Id) : Event := { name, rule := some rule.text }

/-- An event with a number of records. -/
def counted (name : String) (count : Nat) : Event := { name, count := some count }

/-- The written form; what is absent is left out. -/
def toJson (e : Event) : Json :=
  .object ([("event", Json.str e.name)] ++ Json.memberIf "command" (e.command.map .str) ++
    Json.memberIf "rule_id" (e.rule.map .str) ++
    Json.memberIf "affected_count" (e.count.map .ofInt) ++
    Json.memberIf "error_message" (e.error.map .str))

/-- The fields in their order. -/
def fields : Json.Decode Event := do
  let name ← Json.required "event" Json.asText?
  let command ← Json.optional "command" Json.asText?
  let rule ← Json.optional "rule_id" Json.asText?
  let count ← Json.optional "affected_count" Json.asSigned?
  let error ← Json.optional "error_message" Json.asText?
  return ⟨name, command, rule, count, error⟩

/-- Reads the written form. -/
def ofJson? : Json → Option Event := Json.decode? fields

end Event
end LedgerRules
