/-
# Data files as text

A data file is written as JSON: the schema, and the content in rows.  A text
that is not of this form is no data file.

The program keeps database files here; the form is our own, and holds the same
tables.
-/

import LedgerRules.Json.Reader
import LedgerRules.Site.Basic

namespace LedgerRules

/-! ### Cells and rows -/

/-- Writes a cell: the value, or the name of an end. -/
def Extended.toJson {α : Type} (write : α → Json) : Extended α → Json
  | .finite a => write a
  | .infinity => .str "infinity"
  | .negInfinity => .str "-infinity"

/-- Reads a cell. -/
def Extended.ofJson? {α : Type} (read? : Json → Option α) : Json → Option (Extended α)
  | .str s => Extended.ofWord? s
  | j => (read? j).map .finite

/-- Writes a cell with a time. -/
def TimeCell.toJson (c : TimeCell) : Json := Extended.toJson Json.ofInt c

/-- Reads a cell with a time. -/
def TimeCell.ofJson? (j : Json) : Option TimeCell := Extended.ofJson? Json.asInt? j

/-- Writes a cell with a date. -/
def DateCell.toJson (c : DateCell) : Json := Extended.toJson (fun d => .ofInt d.day) c

/-- Reads a cell with a date. -/
def DateCell.ofJson? (j : Json) : Option DateCell :=
  Extended.ofJson? (fun j => j.asInt?.map Date.mk) j

namespace AccountRow

/-- The written form. -/
def toJson (r : AccountRow) : Json :=
  .object [("account_id", .str r.id), ("user_id", .str r.user), ("name", .str r.name),
    ("account_type", .ofText? r.accountType), ("bank", .ofText? r.bank),
    ("currency", .str r.currency), ("created_at", r.createdAt.toJson),
    ("updated_at", r.updatedAt.toJson)]

/-- Reads the written form. -/
def ofJson? : Json → Option AccountRow := Json.decode? do
  let id ← Json.required "account_id" Json.asText?
  let user ← Json.required "user_id" Json.asText?
  let name ← Json.required "name" Json.asText?
  let accountType ← Json.optional "account_type" Json.asText?
  let bank ← Json.optional "bank" Json.asText?
  let currency ← Json.required "currency" Json.asText?
  let createdAt ← Json.required "created_at" TimeCell.ofJson?
  let updatedAt ← Json.required "updated_at" TimeCell.ofJson?
  return ⟨id, user, name, accountType, bank, currency, createdAt, updatedAt⟩

end AccountRow

namespace TransactionRow

/-- The written form. -/
def toJson (r : TransactionRow) : Json :=
  .object [("transaction_id", .str r.id), ("user_id", .str r.user), ("account_id", .str r.account),
    ("amount", .ofInt r.cents), ("direction", .ofInt32? r.direction),
    ("description", .ofText? r.description), ("merchant", .ofText? r.merchant),
    ("currency", .ofText? r.currency), ("category_id", .ofInt64? r.category),
    ("category_manually_set", .bool r.categoryManual),
    ("merchant_manually_set", .bool r.merchantManual), ("transaction_date", r.date.toJson),
    ("created_at", r.createdAt.toJson), ("updated_at", r.updatedAt.toJson)]

/-- Reads the written form. -/
def ofJson? : Json → Option TransactionRow := Json.decode? do
  let id ← Json.required "transaction_id" Json.asText?
  let user ← Json.required "user_id" Json.asText?
  let account ← Json.required "account_id" Json.asText?
  let cents ← Json.required "amount" Json.asInt?
  let direction ← Json.optional "direction" Json.asInt32?
  let description ← Json.optional "description" Json.asText?
  let merchant ← Json.optional "merchant" Json.asText?
  let currency ← Json.optional "currency" Json.asText?
  let category ← Json.optional "category_id" Json.asInt64?
  let categoryManual ← Json.required "category_manually_set" Json.asBool?
  let merchantManual ← Json.required "merchant_manually_set" Json.asBool?
  let date ← Json.required "transaction_date" DateCell.ofJson?
  let createdAt ← Json.required "created_at" TimeCell.ofJson?
  let updatedAt ← Json.required "updated_at" TimeCell.ofJson?
  return ⟨id, user, account, cents, direction, description, merchant, currency, category,
    categoryManual, merchantManual, date, createdAt, updatedAt⟩

end TransactionRow

namespace RuleRow

/-- The written form. -/
def toJson (r : RuleRow) : Json :=
  .object [("rule_id", .str r.id), ("user_id", .str r.user), ("rule_name", .str r.name),
    ("conditions", .str r.conditions), ("category_id", .ofInt64? r.category),
    ("merchant", .ofText? r.merchant), ("is_active", .bool r.active),
    ("priority_order", .ofInt r.priority.toInt), ("rule_source", .str r.source),
    ("times_applied", .ofInt r.timesApplied),
    ("last_applied_at", r.lastAppliedAt.elim .null TimeCell.toJson),
    ("created_at", r.createdAt.toJson), ("updated_at", r.updatedAt.toJson)]

/-- Reads the written form. -/
def ofJson? : Json → Option RuleRow := Json.decode? do
  let id ← Json.required "rule_id" Json.asText?
  let user ← Json.required "user_id" Json.asText?
  let name ← Json.required "rule_name" Json.asText?
  let conditions ← Json.required "conditions" Json.asText?
  let category ← Json.optional "category_id" Json.asInt64?
  let merchant ← Json.optional "merchant" Json.asText?
  let active ← Json.required "is_active" Json.asBool?
  let priority ← Json.required "priority_order" Json.asInt32?
  let source ← Json.required "rule_source" Json.asText?
  let timesApplied ← Json.required "times_applied" Json.asInt?
  let lastAppliedAt ← Json.optional "last_applied_at" TimeCell.ofJson?
  let createdAt ← Json.required "created_at" TimeCell.ofJson?
  let updatedAt ← Json.required "updated_at" TimeCell.ofJson?
  return ⟨id, user, name, conditions, category, merchant, active, priority, source, timesApplied,
    lastAppliedAt, createdAt, updatedAt⟩

end RuleRow

/-! ### Files -/

/-- Reads a list. -/
def Json.asList? {α : Type} (read? : Json → Option α) : Json → Option (List α)
  | .arr items => items.mapM read?
  | _ => none

namespace Schema

/-- The written form. -/
def toJson (s : Schema) : Json :=
  let names (ns : List String) : Json := .arr (ns.map .str)
  .object [("tables", names s.tables), ("sequences", names s.sequences),
    ("indexes", names s.indexes), ("applied", names s.applied)]

/-- Reads the written form. -/
def ofJson? : Json → Option Schema := Json.decode? do
  let names := Json.asList? Json.asText?
  let tables ← Json.required "tables" names
  let sequences ← Json.required "sequences" names
  let indexes ← Json.required "indexes" names
  let applied ← Json.required "applied" names
  return ⟨tables, sequences, indexes, applied⟩

end Schema

namespace Site

/-- The text of a database. -/
def databaseText (s : Stored Database) : String :=
  (Json.object [("schema", s.schema.toJson),
    ("accounts", .arr (s.content.accounts.map AccountRow.toJson)),
    ("transactions", .arr (s.content.transactions.map TransactionRow.toJson)),
    ("rules", .arr (s.content.rules.map RuleRow.toJson))]).compact

/-- The text of a journal. -/
def journalText (s : Stored Journal) : String :=
  (Json.object [("schema", s.schema.toJson), ("next", .ofNat s.content.nextId),
    ("entries", .arr (s.content.entries.map Entry.toJson))]).compact

/-- The database in a text, if it is one. -/
def readDatabase? (text : String) : Option (Stored Database) :=
  (Json.read? text).bind <| Json.decode? do
    let schema ← Json.required "schema" Schema.ofJson?
    let accounts ← Json.required "accounts" (Json.asList? AccountRow.ofJson?)
    let transactions ← Json.required "transactions" (Json.asList? TransactionRow.ofJson?)
    let rules ← Json.required "rules" (Json.asList? RuleRow.ofJson?)
    return ⟨schema, { accounts, transactions, rules }⟩

/-- The journal in a text, if it is one. -/
def readJournal? (text : String) : Option (Stored Journal) :=
  (Json.read? text).bind <| Json.decode? do
    let schema ← Json.required "schema" Schema.ofJson?
    let next ← Json.required "next" Json.asInt?
    let entries ← Json.required "entries" (Json.asList? Entry.ofJson?)
    return ⟨schema, ⟨entries, next.toNat⟩⟩

/-- The data file of a text. -/
def fileOfText {α : Type} (read? : String → Option (Stored α)) (text : String) : DataFile α :=
  match read? text with
  | some s => .present s
  | none => .alien text

/-- The text of a data file, if there is one. -/
def textOfFile? {α : Type} (write : Stored α → String) : DataFile α → Option String
  | .absent => none
  | .alien text => some text
  | .present s => some (write s)

end Site
end LedgerRules
