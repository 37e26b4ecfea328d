/-
# What can go wrong

An error is a cause: a record that is not there, a request that breaks a rule
about records, a rule body with faults, or a fault of the store.
`Error.message` is the one place that words it.  Where a cause comes from
outside as a text, it is carried as it is.

Embeds the cases of `Error` that an operation of the two services can end with
(section 7 of the specification, Error Handling Design) and the texts that
`RuleService`, `LedgerService`, `MemoryStore` and `DuckDbRepository` put into
them.  `Error.overflow` is no case of that type: it stands for an addition that
has no room in its type, at which the program breaks off instead of answering.
-/

import LedgerRules.Conditions.Validation
import LedgerRules.Id

namespace LedgerRules

/-- A fault of a store, with what its message tells.  `refused` is any statement
that the database does not carry out. -/
inductive StoreFault
  | duplicateRule (id : Id)
  | duplicateTransaction (id : Id)
  | groupRejected
  | badId (text : String)
  | badDate (text : String)
  | badTimestamp (text : String)
  | badConditions (rule : Id) (faults : List Fault)
  | refused
  | reported (text : String)
  deriving DecidableEq, Repr

/-- A record that is not there. -/
inductive Missing
  | account (id : Id)
  | transaction (id : Id)
  | rule (id : Id)
  | reported (text : String)
  deriving DecidableEq, Repr

/-- A rule about records that a request breaks.  `reported` is one that came
from elsewhere as a text. -/
inductive Complaint
  | accountNameBlank
  | currencyBlank
  | ruleNameBlank
  | ruleWithoutTarget
  | reported (text : String)
  deriving DecidableEq, Repr

/-- Why an operation came to no result.  All but the last are errors that it
answers.  `overflow` is none of these: a sum had no room in its type, and the
operation broke off in the middle of what it did, together with the run that it
was part of. -/
inductive Error
  | store (fault : StoreFault)
  | missing (what : Missing)
  | invalid (complaint : Complaint)
  | conditions (faults : List Fault)
  | settings (text : String)
  | reported (text : String)
  | overflow
  deriving DecidableEq, Repr

namespace StoreFault

/-- The message of a fault of the store. -/
def message : StoreFault → String
  | duplicateRule id => s!"duplicate rule {id.text}"
  | duplicateTransaction id => s!"duplicate transaction {id.text}"
  | groupRejected => "grouped update rejected"
  | badId text => s!"bad id '{text}'"
  | badDate text => s!"bad date '{text}'"
  | badTimestamp text => s!"bad timestamp '{text}'"
  | badConditions rule faults =>
    s!"rule {rule.text} has invalid stored conditions: {(Verdict.rejected faults).text}"
  | refused => "statement refused"
  | reported text => text

end StoreFault

namespace Missing

/-- The name of what is not there. -/
def name : Missing → String
  | account id => s!"account {id.text}"
  | transaction id => s!"transaction {id.text}"
  | rule id => s!"rule {id.text}"
  | reported text => text

end Missing

namespace Complaint

/-- The message of a complaint. -/
def message : Complaint → String
  | accountNameBlank => "account name cannot be empty"
  | currencyBlank => "currency cannot be empty"
  | ruleNameBlank => "rule name cannot be empty"
  | ruleWithoutTarget => "rule must set a category, a merchant, or both"
  | reported text => text

end Complaint

namespace Error

/-- The text of an error, or what is said where an operation breaks off. -/
def message : Error → String
  | store fault => s!"Database error: {fault.message}"
  | missing what => s!"Not found: {what.name}"
  | invalid complaint => s!"Validation error: {complaint.message}"
  | settings text => s!"Configuration error: {text}"
  | conditions faults => s!"Invalid rule conditions: {(Verdict.rejected faults).text}"
  | reported text => text
  | overflow => "attempt to add with overflow"

/-- The faults of a rule body, if those are the cause. -/
def faults? : Error → Option (List Fault)
  | conditions faults => some faults
  | _ => none

end Error
end LedgerRules
