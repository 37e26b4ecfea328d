/-
# Rows

How records are laid out in tables.  An identifier, a rule body and the source
of a rule are kept as text, so a row can hold what is no record: `toRecord`
reads a row back and says what cannot be read.

| table | columns kept otherwise than in the record |
| --- | --- |
| accounts | `account_id` as text, times as cells |
| transactions | `transaction_id`, `account_id` as text, `amount` in hundredths, dates and times as cells |
| rules | `rule_id`, `conditions`, `rule_source` as text, times as cells |

Embeds `RawRule`, `RawTransaction` and `RawAccount` with `into_rule`,
`into_transaction` and `into_account`, and the values that the `INSERT` and
`UPDATE` statements of `DuckDbRepository` write.
-/

import LedgerRules.Json.Writer
import LedgerRules.Rule
import LedgerRules.Store.Database.Cell

namespace LedgerRules

/-- A row of the table of accounts (`sys_accounts`).  Any text may stand in the
column of the identifier. -/
structure AccountRow where
  id : String
  user : String
  name : String
  accountType : Option String
  bank : Option String
  currency : String
  createdAt : TimeCell
  updatedAt : TimeCell
  deriving DecidableEq, Repr

/-- A row of the table of transactions (`sys_transactions`), with the amount in
hundredths. -/
structure TransactionRow where
  id : String
  user : String
  account : String
  cents : Int
  direction : Option Int32
  description : Option String
  merchant : Option String
  currency : Option String
  category : Option Int64
  categoryManual : Bool
  merchantManual : Bool
  date : DateCell
  createdAt : TimeCell
  updatedAt : TimeCell
  deriving DecidableEq, Repr

/-- A row of the table of rules (`sys_rules`).  The body is a text, which need
not be a body that is accepted. -/
structure RuleRow where
  id : String
  user : String
  name : String
  conditions : String
  category : Option Int64
  merchant : Option String
  active : Bool
  priority : Int32
  source : String
  timesApplied : Int
  lastAppliedAt : Option TimeCell
  createdAt : TimeCell
  updatedAt : TimeCell
  deriving DecidableEq, Repr

/-- The identifier in a cell. -/
def readId (text : String) : Except Error Id :=
  match Id.parse? text with
  | some id => .ok id
  | none => .error (.store (.badId text))

/-- The time in a cell. -/
def readTime (c : TimeCell) : Except Error Instant :=
  c.read.mapError fun text => .store (.badTimestamp text)

/-- The date in a cell. -/
def readDate (c : DateCell) : Except Error Date :=
  c.read.mapError fun text => .store (.badDate text)

namespace AccountRow

/-- The row of an account, if every cell has room. -/
def ofRecord? (a : Account) : Option AccountRow := do
  let createdAt ← a.createdAt.toCell?
  let updatedAt ← a.updatedAt.toCell?
  return ⟨a.id.text, a.user, a.name, a.accountType, a.bank, a.currency, createdAt, updatedAt⟩

/-- The account in a row. -/
def toRecord (r : AccountRow) : Except Error Account := do
  let id ← readId r.id
  let createdAt ← readTime r.createdAt
  let updatedAt ← readTime r.updatedAt
  return ⟨id, r.user, r.name, r.accountType, r.bank, r.currency, createdAt, updatedAt⟩

/-- Whether a row comes before another or level with it, by name. -/
def precedes (a b : AccountRow) : Bool := !(b.name < a.name)

/-- What rules see of the account in a row. -/
def view (r : AccountRow) : AccountView := ⟨r.accountType, some r.name, r.bank⟩

end AccountRow

namespace TransactionRow

/-- The row of a transaction, if every cell has room. -/
def ofRecord? (t : Transaction) : Option TransactionRow := do
  let cents ← t.amount.toCell?
  let date ← t.date.toCell?
  let createdAt ← t.createdAt.toCell?
  let updatedAt ← t.updatedAt.toCell?
  return { id := t.id.text, user := t.user, account := t.account.text, cents
           direction := t.direction, description := t.description, merchant := t.merchant
           currency := t.currency, category := t.category
           categoryManual := t.categoryManual, merchantManual := t.merchantManual
           date, createdAt, updatedAt }

/-- The transaction in a row. -/
def toRecord (r : TransactionRow) : Except Error Transaction := do
  let id ← readId r.id
  let account ← readId r.account
  let date ← readDate r.date
  let createdAt ← readTime r.createdAt
  let updatedAt ← readTime r.updatedAt
  return { id, user := r.user, account, amount := .ofCents r.cents
           direction := r.direction, description := r.description, merchant := r.merchant
           currency := r.currency, category := r.category, date, createdAt, updatedAt
           categoryManual := r.categoryManual, merchantManual := r.merchantManual }

/-- Whether category and merchant were both set by hand. -/
def fullyManual (r : TransactionRow) : Bool := r.categoryManual && r.merchantManual

/-- Whether a row comes before another or level with it, newest first. -/
def newerFirst (a b : TransactionRow) : Bool :=
  b.date != a.date && DateCell.atMost b.date a.date ||
    (a.date == b.date && TimeCell.atMost b.createdAt a.createdAt)

/-- Whether a row comes before another or level with it, by date and identifier. -/
def olderFirst (a b : TransactionRow) : Bool :=
  a.date != b.date && DateCell.atMost a.date b.date ||
    (a.date == b.date && !(b.id < a.id))

end TransactionRow

namespace RuleRow

/-- The row of a rule, if every cell has room. -/
def ofRecord? (r : Rule) : Option RuleRow := do
  let lastAppliedAt ← match r.lastAppliedAt with
    | some t => some <$> t.toCell?
    | none => some none
  let createdAt ← r.createdAt.toCell?
  let updatedAt ← r.updatedAt.toCell?
  return { id := r.id.text, user := r.user, name := r.name
           conditions := r.conditions.toJson.compact
           category := r.category, merchant := r.merchant, active := r.active
           priority := r.priority, source := r.source.name, timesApplied := r.timesApplied
           lastAppliedAt, createdAt, updatedAt }

/-- The rule in a row; an unknown source counts as the user. -/
def toRecord (r : RuleRow) : Except Error Rule := do
  let id ← readId r.id
  let conditions ← match Conditions.validateText r.conditions with
    | .accepted c => .ok c
    | .rejected faults => .error (.store (.badConditions id faults))
  let lastAppliedAt ← match r.lastAppliedAt with
    | some c => some <$> readTime c
    | none => .ok none
  let createdAt ← readTime r.createdAt
  let updatedAt ← readTime r.updatedAt
  return { id, user := r.user, name := r.name, conditions, category := r.category
           merchant := r.merchant, active := r.active, priority := r.priority
           source := (RuleSource.ofName? r.source).getD .user
           timesApplied := r.timesApplied, lastAppliedAt, createdAt, updatedAt }

/-- Whether a row comes before another or level with it: the lower priority
first, then the older rule. -/
def precedes (a b : RuleRow) : Bool :=
  a.priority < b.priority ||
    (a.priority == b.priority && TimeCell.atMost a.createdAt b.createdAt)

end RuleRow
end LedgerRules
