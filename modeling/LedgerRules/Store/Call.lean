/-
# Calls on a store

A store keeps the accounts, transactions and rules of all users.  What can be
asked of it is a `Call`, and each call has a type of answers.  A call is atomic:
it succeeds as a whole or fails and leaves an error.  Every call names the user
it is for, save the count of applications, which goes by the rule.

A store is anything that answers calls: `Memory` holds records, `Database` rows.

Embeds the ports `RuleStore` and `LedgerStore` (section 6 of the specification,
External Interfaces): one call for each of their methods, with the documented
answer.
-/

import LedgerRules.Outcome.Group

namespace LedgerRules

/-- The rules that could be read, and why others could not. -/
structure Listing where
  rules : List Rule
  skipped : List Error
  deriving DecidableEq, Repr

/-- A call on a store: one for each method of `RuleStore` and `LedgerStore`,
where two methods that do the same are one call. -/
inductive Call
  | insertAccount (account : Account)
  | listAccounts (user : String)
  | getAccount (user : String) (id : Id)
  | accountView (user : String) (id : Id)
  | insertTransaction (transaction : Transaction)
  | updateTransaction (transaction : Transaction)
  | getTransaction (user : String) (id : Id)
  | listTransactions (user : String) (account : Option Id) (limit : Option Nat)
  | eligible (user : String) (ids : Option (List Id)) (includeManual : Bool)
  | assign (user : String) (category : Option Int64) (merchant : Option String) (ids : List Id)
      (now : Instant)
  | insertRule (rule : Rule)
  | updateRule (rule : Rule)
  | deleteRule (user : String) (id : Id)
  | getRule (user : String) (id : Id)
  | listRules (user : String)
  | activeRules (user : String)
  | maxPriority (user : String)
  | recordApplications (rule : Id) (count : Nat) (now : Instant)

/-- The answer to a call that succeeds.  A record that is not there is an answer
and no failure. -/
@[reducible]
def Call.Answer : Call → Type
  | .insertAccount _ => Unit
  | .listAccounts _ => List Account
  | .getAccount _ _ => Option Account
  | .accountView _ _ => Option AccountView
  | .insertTransaction _ => Unit
  | .updateTransaction _ => Unit
  | .getTransaction _ _ => Option Transaction
  | .listTransactions _ _ _ => List Transaction
  | .eligible _ _ _ => List Transaction
  | .assign _ _ _ _ _ => Nat
  | .insertRule _ => Unit
  | .updateRule _ => Unit
  | .deleteRule _ _ => Bool
  | .getRule _ _ => Option Rule
  | .listRules _ => Listing
  | .activeRules _ => Listing
  | .maxPriority _ => Option Int32
  | .recordApplications _ _ _ => Unit

/-- What answers calls.  A call may change the store also where it fails. -/
class Store (σ : Type) where
  /-- The answer to a call and the store after it. -/
  answer : (call : Call) → σ → Except Error call.Answer × σ

end LedgerRules
