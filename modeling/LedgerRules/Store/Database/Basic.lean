/-
# A store of rows

`Database` keeps the records of all users in three tables.  A statement writes
all of its rows or fails and writes none.  It is refused if a key is there
already, if a value has no room in its cell, or if the table is closed to
writing.

Rules that cannot be read are left out of lists; a list of transactions or
accounts fails at the first row that cannot be read.

Accounts are listed by name, rules by priority and then by the time of creation,
transactions newest first by date and then by the time of creation.  A statement
says no more about its order, so rows that are level in that may come in any
(`Ties`), and a limit may cut anywhere among them.

Embeds `DuckDbRepository` with its statements: its methods for `RuleStore` and
`LedgerStore`, `query_rules`, `query_transactions` and `in_list` (section 17 of
the specification, Persistence), over the tables `sys_accounts`,
`sys_transactions` and `sys_rules` with their primary keys.
-/

import LedgerRules.Arrangement
import LedgerRules.Store.Database.Row
import LedgerRules.Store.Memory

namespace LedgerRules

/-- The tables of a database. -/
inductive TableName
  | accounts
  | transactions
  | rules
  deriving DecidableEq, Repr

/-- In which order a statement finds rows before it sorts them.  Rows that are
level in what they are sorted by stay in that order.  It may be another one for
every call. -/
structure Ties where
  accounts : Call → Arrangement AccountRow := fun _ => .asGiven
  transactions : Call → Arrangement TransactionRow := fun _ => .asGiven
  rules : Call → Arrangement RuleRow := fun _ => .asGiven

/-- A store of rows (`DuckDbRepository`).  Statements that write to a table in
`closed` are refused, and `ties` settles what `ORDER BY` leaves open. -/
structure Database where
  accounts : List AccountRow := []
  transactions : List TransactionRow := []
  rules : List RuleRow := []
  closed : List TableName := []
  ties : Ties := {}

namespace Database

/-- The error of a statement that is refused. -/
def refused {α : Type} : Except Error α := .error (.store .refused)

/-- Whether a row is the one of a user with an identifier. -/
def hits (user : String) (id : Id) (rowId rowUser : String) : Bool :=
  rowId == id.text && rowUser == user

/-! ### Accounts -/

/-- Adds an account.  A key that is taken, or a value that no cell has room for,
makes the statement fail as a whole. -/
def insertAccount (d : Database) (a : Account) : Except Error Unit × Database :=
  match AccountRow.ofRecord? a with
  | none => (refused, d)
  | some row =>
    if d.closed.contains .accounts || d.accounts.any (·.id == row.id) then (refused, d)
    else (.ok (), { d with accounts := d.accounts ++ [row] })

/-- The accounts of a user, by name. -/
def listAccounts (d : Database) (user : String) : Except Error (List Account) :=
  ((d.ties.accounts (.listAccounts user)).sort AccountRow.precedes
    (d.accounts.filter (·.user == user))).mapM (·.toRecord)

/-- The row of an account. -/
def accountRow? (d : Database) (user : String) (id : Id) : Option AccountRow :=
  d.accounts.find? fun r => hits user id r.id r.user

/-! ### Transactions -/

/-- The row of a transaction. -/
def transactionRow? (d : Database) (user : String) (id : Id) : Option TransactionRow :=
  d.transactions.find? fun r => hits user id r.id r.user

/-- Adds a transaction. -/
def insertTransaction (d : Database) (t : Transaction) : Except Error Unit × Database :=
  match TransactionRow.ofRecord? t with
  | none => (refused, d)
  | some row =>
    if d.closed.contains .transactions || d.transactions.any (·.id == row.id) then (refused, d)
    else (.ok (), { d with transactions := d.transactions ++ [row] })

/-- Writes a transaction over the stored one, whose time of creation stays.  One
that is not there is an error. -/
def updateTransaction (d : Database) (t : Transaction) : Except Error Unit × Database :=
  if d.closed.contains .transactions then (refused, d)
  else match d.transactionRow? t.user t.id with
    | none => (.error (.missing (.transaction t.id)), d)
    | some _ =>
      -- The time of creation is not written, so it needs no room.
      match TransactionRow.ofRecord? { t with createdAt := t.updatedAt } with
      | none => (refused, d)
      | some row => (.ok (), { d with
          transactions := d.transactions.map fun r =>
            if hits t.user t.id r.id r.user then { row with createdAt := r.createdAt } else r })

/-- The transactions of a user, newest first; a limit past 63 bits is refused. -/
def listTransactions (d : Database) (user : String) (account : Option Id) (limit : Option Nat) :
    Except Error (List Transaction) :=
  let found := d.transactions.filter fun r => r.user == user && account.all (r.account == ·.text)
  let sorted := (d.ties.transactions (.listTransactions user account limit)).sort
    TransactionRow.newerFirst found
  match limit with
  | none => sorted.mapM (·.toRecord)
  | some n => if Number.fitsSigned n then (sorted.take n).mapM (·.toRecord) else refused

/-- The transactions of a user that rules may be applied to, by date.  Two of
one date come by identifier, so this order is settled. -/
def eligible (d : Database) (user : String) (ids : Option (List Id)) (includeManual : Bool) :
    Except Error (List Transaction) :=
  let found := d.transactions.filter fun r =>
    r.user == user && (includeManual || !r.fullyManual) &&
      ids.all (·.any fun id => r.id == id.text)
  (found.mergeSort TransactionRow.olderFirst).mapM (·.toRecord)

/-- Writes a category and a merchant to transactions; absent targets stay.
Without identifiers, or without any target, there is no statement and the answer
is zero. -/
def assign (d : Database) (user : String) (category : Option Int64) (merchant : Option String)
    (ids : List Id) (now : Instant) : Except Error Nat × Database :=
  if ids.isEmpty || (category.isNone && merchant.isNone) then (.ok 0, d)
  else match now.toCell? with
    | none => (refused, d)
    | some updatedAt =>
      if d.closed.contains .transactions then (refused, d)
      else
        let hit (r : TransactionRow) : Bool := r.user == user && ids.any fun id => r.id == id.text
        (.ok (d.transactions.countP hit), { d with
          transactions := d.transactions.map fun r =>
            if hit r then { r with
              category := category.or r.category
              merchant := merchant.or r.merchant
              updatedAt }
            else r })

/-! ### Rules -/

/-- The row of a rule. -/
def ruleRow? (d : Database) (user : String) (id : Id) : Option RuleRow :=
  d.rules.find? fun r => hits user id r.id r.user

/-- Adds a rule. -/
def insertRule (d : Database) (rule : Rule) : Except Error Unit × Database :=
  match RuleRow.ofRecord? rule with
  | none => (refused, d)
  | some row =>
    if d.closed.contains .rules || d.rules.any (·.id == row.id) then (refused, d)
    else (.ok (), { d with rules := d.rules ++ [row] })

/-- Writes a rule over the stored one; its time of creation and how often it was
applied stay. -/
def updateRule (d : Database) (rule : Rule) : Except Error Unit × Database :=
  if d.closed.contains .rules then (refused, d)
  else match d.ruleRow? rule.user rule.id with
    | none => (.error (.missing (.rule rule.id)), d)
    | some _ =>
      match rule.updatedAt.toCell? with
      | none => (refused, d)
      | some updatedAt => (.ok (), { d with
          rules := d.rules.map fun r =>
            if hits rule.user rule.id r.id r.user then { r with
              name := rule.name, conditions := rule.conditions.toJson.compact
              category := rule.category, merchant := rule.merchant, active := rule.active
              priority := rule.priority, source := rule.source.name, updatedAt }
            else r })

/-- Deletes a rule; whether there was one. -/
def deleteRule (d : Database) (user : String) (id : Id) : Except Error Bool × Database :=
  if d.closed.contains .rules then (refused, d)
  else
    let hit (r : RuleRow) : Bool := hits user id r.id r.user
    (.ok (d.rules.any hit), { d with rules := d.rules.filter (!hit ·) })

/-- The rules in rows, in the order they are looked at.  A row that cannot be
read is skipped, and why is part of the listing. -/
def listing (ties : Arrangement RuleRow) (rows : List RuleRow) : Listing :=
  let read := (ties.sort RuleRow.precedes rows).map (·.toRecord)
  { rules := read.filterMap fun r => r.toOption
    skipped := read.filterMap fun r => match r with
      | .error e => some e
      | .ok _ => none }

/-- Counts applications of a rule, whoever it belongs to.  A count of zero makes
no statement. -/
def recordApplications (d : Database) (id : Id) (count : Nat) (now : Instant) :
    Except Error Unit × Database :=
  if count = 0 then (.ok (), d)
  else match now.toCell? with
    | none => (refused, d)
    | some cell =>
      if d.closed.contains .rules then (refused, d)
      else (.ok (), { d with
        rules := d.rules.map fun r =>
          if r.id == id.text then
            { r with timesApplied := r.timesApplied + count, lastAppliedAt := some cell }
          else r })

/-- The greatest priority among rows. -/
def maxPriority (rows : List RuleRow) : Option Int32 :=
  rows.foldl (fun found r => some (match found with
    | some p => if p < r.priority then r.priority else p
    | none => r.priority)) none

/-- The record in a row that may be there. -/
def readOne {ρ α : Type} (row : Option ρ) (read : ρ → Except Error α) : Except Error (Option α) :=
  match row with
  | some r => some <$> read r
  | none => .ok none

/-- The answer to a call.  This is `DuckDbRepository`, method by method. -/
def answer (call : Call) (d : Database) : Except Error call.Answer × Database :=
  match call with
  | .insertAccount a => d.insertAccount a
  | .listAccounts user => (d.listAccounts user, d)
  | .getAccount user id => (readOne (d.accountRow? user id) AccountRow.toRecord, d)
  | .accountView user id => (.ok ((d.accountRow? user id).map AccountRow.view), d)
  | .insertTransaction t => d.insertTransaction t
  | .updateTransaction t => d.updateTransaction t
  | .getTransaction user id => (readOne (d.transactionRow? user id) TransactionRow.toRecord, d)
  | .listTransactions user account limit => (d.listTransactions user account limit, d)
  | .eligible user ids includeManual => (d.eligible user ids includeManual, d)
  | .assign user category merchant ids now => d.assign user category merchant ids now
  | .insertRule r => d.insertRule r
  | .updateRule r => d.updateRule r
  | .deleteRule user id => d.deleteRule user id
  | .getRule user id => (readOne (d.ruleRow? user id) RuleRow.toRecord, d)
  | .listRules user =>
    (.ok (listing (d.ties.rules (.listRules user)) (d.rules.filter (·.user == user))), d)
  | .activeRules user =>
    (.ok (listing (d.ties.rules (.activeRules user))
      (d.rules.filter fun r => r.user == user && r.active)), d)
  | .maxPriority user => (.ok (maxPriority (d.rules.filter (·.user == user))), d)
  | .recordApplications id count now => d.recordApplications id count now

instance : Store Database := ⟨answer⟩

end Database
end LedgerRules
