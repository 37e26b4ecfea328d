/-
# Operations

An operation is one request of a user, as data: what is asked and with which
arguments.  `Operation.action` is the program that carries it out.

One constructor for each public method of `RuleService` (section 14 of the
specification, Rule Management) and of `LedgerService` (section 15, Ledger) that
reaches the store.
-/

import LedgerRules.Program.Ledger

namespace LedgerRules

/-- A request of a user. -/
inductive Operation
  | addAccount (new : NewAccount)
  | listAccounts
  | addTransaction (new : NewTransaction)
  | updateTransaction (id : Id) (update : TransactionUpdate)
  | getTransaction (id : Id)
  | listTransactions (account : Option Id) (limit : Option Nat)
  | createRule (new : NewRule)
  | updateRule (id : Id) (update : RuleUpdate)
  | setActive (id : Id) (active : Bool)
  | deleteRule (id : Id)
  | getRule (id : Id)
  | listRules
  | applyToTransaction (id : Id)
  | applyToExisting (ids : Option (List Id)) (includeManual : Bool)

/-- What an operation answers. -/
inductive Reply
  | account (account : Account)
  | accounts (accounts : List Account)
  | transaction (transaction : Transaction)
  | transactions (transactions : List Transaction)
  | change (change : RuleChange)
  | rule (rule : Rule)
  | rules (rules : List Rule)
  | outcome (outcome : Outcome)
  | summary (summary : BulkSummary)
  | nothing

/-- The program of an operation; backfills touch what was set by hand if
`backfillIncludesManual` says so. -/
def Operation.action (backfillIncludesManual : Bool) (user : String) : Operation → Action Reply
  | addAccount new => .account <$> Action.addAccount user new
  | listAccounts => .accounts <$> Action.listAccounts user
  | addTransaction new => .transaction <$> Action.addTransaction user new
  | updateTransaction id update => .transaction <$> Action.updateTransaction user id update
  | getTransaction id => .transaction <$> Action.getTransaction user id
  | listTransactions account limit => .transactions <$> Action.listTransactions user account limit
  | createRule new => .change <$> Action.createRule user new backfillIncludesManual
  | updateRule id update => .change <$> Action.updateRule user id update backfillIncludesManual
  | setActive id active => .rule <$> Action.setActive user id active
  | deleteRule id => (fun _ => .nothing) <$> Action.deleteRule user id
  | getRule id => .rule <$> Action.getRule user id
  | listRules => .rules <$> Action.listRules user
  | applyToTransaction id => .outcome <$> Action.applyToTransaction user id
  | applyToExisting ids includeManual => .summary <$> Action.applyToExisting user ids includeManual

end LedgerRules
