/-
# Editing cells

A row can be changed from outside, one cell at a time, by the names of its
column.  The text for a cell is read as its type asks: numbers, truth values,
amounts, dates and times.  A cell that must hold something cannot be set to
null.

No function of the program does this; it is how rows come to be that none of its
functions writes, such as a rule body that no longer validates (section 17 of
the specification, Persistence).
-/

import LedgerRules.Store.Database.Basic

namespace LedgerRules

namespace Cell

/-- Reads a truth value. -/
def bool? (s : String) : Option Bool :=
  let word := (Text.trim s).toList.map Text.asciiLower
  if ["true", "t", "yes", "y", "1"].any (word == ·.toList) then some true
  else if ["false", "f", "no", "n", "0"].any (word == ·.toList) then some false
  else none

/-- Reads an amount. -/
def cents? (s : String) : Option Int := (Decimal.parse? (Text.trim s)).bind Decimal.toCell?

/-- Reads a cell that may be null. -/
def orNull {α : Type} (read? : String → Option α) : Option String → Option (Option α)
  | none => some none
  | some s => (read? s).map some

end Cell

/-- The account row with one cell set. -/
def AccountRow.set? (r : AccountRow) (column : String) (value : Option String) :
    Option AccountRow :=
  match column with
  | "account_id" => value.map fun s => { r with id := s }
  | "user_id" => value.map fun s => { r with user := s }
  | "name" => value.map fun s => { r with name := s }
  | "account_type" => some { r with accountType := value }
  | "bank" => some { r with bank := value }
  | "currency" => value.map fun s => { r with currency := s }
  | "created_at" => (value.bind TimeCell.ofText?).map fun c => { r with createdAt := c }
  | "updated_at" => (value.bind TimeCell.ofText?).map fun c => { r with updatedAt := c }
  | _ => none

/-- The transaction row with one cell set. -/
def TransactionRow.set? (r : TransactionRow) (column : String) (value : Option String) :
    Option TransactionRow :=
  match column with
  | "transaction_id" => value.map fun s => { r with id := s }
  | "user_id" => value.map fun s => { r with user := s }
  | "account_id" => value.map fun s => { r with account := s }
  | "amount" => (value.bind Cell.cents?).map fun n => { r with cents := n }
  | "direction" => (Cell.orNull Whole.parseInt32? value).map fun n => { r with direction := n }
  | "description" => some { r with description := value }
  | "merchant" => some { r with merchant := value }
  | "currency" => some { r with currency := value }
  | "category_id" => (Cell.orNull Whole.parseInt64? value).map fun n => { r with category := n }
  | "category_manually_set" => (value.bind Cell.bool?).map fun b => { r with categoryManual := b }
  | "merchant_manually_set" => (value.bind Cell.bool?).map fun b => { r with merchantManual := b }
  | "transaction_date" => (value.bind DateCell.ofText?).map fun c => { r with date := c }
  | "created_at" => (value.bind TimeCell.ofText?).map fun c => { r with createdAt := c }
  | "updated_at" => (value.bind TimeCell.ofText?).map fun c => { r with updatedAt := c }
  | _ => none

/-- The rule row with one cell set. -/
def RuleRow.set? (r : RuleRow) (column : String) (value : Option String) : Option RuleRow :=
  match column with
  | "rule_id" => value.map fun s => { r with id := s }
  | "user_id" => value.map fun s => { r with user := s }
  | "rule_name" => value.map fun s => { r with name := s }
  | "conditions" => value.map fun s => { r with conditions := s }
  | "category_id" => (Cell.orNull Whole.parseInt64? value).map fun n => { r with category := n }
  | "merchant" => some { r with merchant := value }
  | "is_active" => (value.bind Cell.bool?).map fun b => { r with active := b }
  | "priority_order" => (value.bind Whole.parseInt32?).map fun n => { r with priority := n }
  | "rule_source" => value.map fun s => { r with source := s }
  | "times_applied" =>
    (value.bind Whole.parseInt64?).map fun n => { r with timesApplied := n.toInt }
  | "last_applied_at" =>
    (Cell.orNull TimeCell.ofText? value).map fun c => { r with lastAppliedAt := c }
  | "created_at" => (value.bind TimeCell.ofText?).map fun c => { r with createdAt := c }
  | "updated_at" => (value.bind TimeCell.ofText?).map fun c => { r with updatedAt := c }
  | _ => none

namespace Database

/-- The database with one cell set in the row with an identifier. -/
def setCell? (d : Database) (table : TableName) (id : Id) (column : String)
    (value : Option String) : Option Database :=
  match table with
  | .accounts => (d.accounts.mapM fun r =>
      if r.id == id.text then r.set? column value else some r).map ({ d with accounts := · })
  | .transactions => (d.transactions.mapM fun r =>
      if r.id == id.text then r.set? column value else some r).map ({ d with transactions := · })
  | .rules => (d.rules.mapM fun r =>
      if r.id == id.text then r.set? column value else some r).map ({ d with rules := · })

/-- The database with a table closed to writing. -/
def close (d : Database) (table : TableName) : Database :=
  { d with closed := table :: d.closed }

end Database
end LedgerRules
