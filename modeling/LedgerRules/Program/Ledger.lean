/-
# Operations on accounts and transactions

A transaction that is recorded or edited goes through the rules of its user, for
the targets that were not set by hand.

Embeds the methods of `LedgerService`: `add_account`, `list_accounts`,
`add_transaction`, `update_transaction`, `get_transaction` and
`list_transactions` (section 15 of the specification, Ledger).
-/

import LedgerRules.Program.Rules

namespace LedgerRules
namespace Action

/-- Adds an account (`LedgerService.add_account`).  Nothing is stored if there
is a complaint. -/
def addAccount (user : String) (new : NewAccount) : Action Account := do
  let account := new.account (← freshId) user (← now)
  refuse account.complaint?
  call (.insertAccount account)
  return account

/-- The accounts of a user, by name. -/
def listAccounts (user : String) : Action (List Account) := call (.listAccounts user)

/-- A transaction of a user. -/
def getTransaction (user : String) (id : Id) : Action Transaction := do
  match ← call (.getTransaction user id) with
  | some t => return t
  | none => throw (.missing (.transaction id))

/-- Records a transaction and applies the rules to it
(`LedgerService.add_transaction`).  The transaction is stored first; if the
rules then fail, it stays as it is. -/
def addTransaction (user : String) (new : NewTransaction) : Action Transaction := do
  let some account ← call (.getAccount user new.account) | throw (.missing (.account new.account))
  let today := (← now).date
  let t := new.transaction account (← freshId) user today (← now)
  call (.insertTransaction t)
  if !t.fullyManual then
    let _ ← applyToTransaction user t.id
  getTransaction user t.id

/-- Edits a transaction, and applies the rules to it if they may now see
something else (`LedgerService.update_transaction`).  The row that was read is
written back as a whole. -/
def updateTransaction (user : String) (id : Id) (update : TransactionUpdate) :
    Action Transaction := do
  let old ← getTransaction user id
  let t := { update.apply old with updatedAt := ← now }
  call (.updateTransaction t)
  if update.reapplies && !t.fullyManual then
    let _ ← applyToTransaction user t.id
  getTransaction user t.id

/-- The transactions of a user, newest first
(`LedgerService.list_transactions`). -/
def listTransactions (user : String) (account : Option Id) (limit : Option Nat) :
    Action (List Transaction) :=
  call (.listTransactions user account limit)

end Action
end LedgerRules
