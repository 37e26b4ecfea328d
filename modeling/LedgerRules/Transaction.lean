/-
# Transactions

A transaction belongs to an account of its user.  Its amount is signed; a
direction code carries the sign where rules look, because they see the size of
the amount alone.

A category or a merchant that was set by hand is marked, and rules leave it
alone.  A transaction is fully manual if both are marked.

| code | direction |
| --- | --- |
| 0 | money out |
| 1 | money in |
| 2 | between accounts |

Embeds `Transaction`, `NewTransaction` and `TransactionUpdate` (section 3 of the
specification, Data Model), with `fully_manual`, `direction_for_amount` and
`changes_rule_inputs`; what a rule sees of a transaction, which is
`TransactionContext.new`; and the record that `LedgerService.add_transaction`
builds and the changes that `LedgerService.update_transaction` makes to one.
-/

import LedgerRules.Account
import LedgerRules.Conditions.Evaluation

namespace LedgerRules

/-- A transaction of a user.  The marks tell whether its category and its
merchant were set by hand, so that rules leave them. -/
structure Transaction where
  id : Id
  user : String
  account : Id
  amount : Decimal
  direction : Option Int32 := none
  description : Option String := none
  merchant : Option String := none
  currency : Option String := none
  category : Option Int64 := none
  date : Date
  createdAt : Instant
  updatedAt : Instant
  categoryManual : Bool := false
  merchantManual : Bool := false
  deriving DecidableEq, Repr

/-- A request to record a transaction.  What is given for the category counts as
set by hand; for the merchant the request says so itself. -/
structure NewTransaction where
  account : Id
  amount : Decimal
  direction : Option Int32 := none
  description : Option String := none
  merchant : Option String := none
  currency : Option String := none
  category : Option Int64 := none
  merchantManual : Bool := false
  date : Option Date := none
  deriving DecidableEq, Repr

/-- A request to edit a transaction; what is absent stays. -/
structure TransactionUpdate where
  amount : Option Decimal := none
  description : Option String := none
  merchant : Option String := none
  category : Option Int64 := none
  date : Option Date := none
  releaseCategory : Bool := false
  releaseMerchant : Bool := false
  deriving DecidableEq, Repr

/-- A merchant without the blanks around it; a blank one is none. -/
def normalizeMerchant (merchant : Option String) : Option String :=
  (merchant.map Text.trim).filter (· != "")

/-- The direction that the sign of an amount implies (`direction_for_amount`).
Zero counts as coming in. -/
def directionOf (amount : Decimal) : Int32 := if amount.isNegative then 0 else 1

namespace Transaction

/-- Whether category and merchant were both set by hand.  Rules have nothing to
do with such a transaction. -/
def fullyManual (t : Transaction) : Bool := t.categoryManual && t.merchantManual

/-- What conditions see of a transaction and, if it is known, of its account.
The amount is seen without its sign, which the direction carries. -/
def facts (t : Transaction) (account : Option AccountView) : Facts :=
  { merchant := t.merchant, description := t.description, direction := t.direction
    accountType := account.bind (·.accountType), accountName := account.bind (·.name)
    bank := account.bind (·.bank), currency := t.currency, amount := some t.amount.abs }

/-- The written form. -/
def toJson (t : Transaction) : Json :=
  .object [("id", .str t.id.text), ("user_id", .str t.user), ("account_id", .str t.account.text),
    ("amount", .str t.amount.toText), ("direction", .ofInt32? t.direction),
    ("description", .ofText? t.description), ("merchant", .ofText? t.merchant),
    ("currency", .ofText? t.currency), ("category_id", .ofInt64? t.category),
    ("transaction_date", .str t.date.text), ("created_at", .str t.createdAt.text),
    ("updated_at", .str t.updatedAt.text), ("category_manually_set", .bool t.categoryManual),
    ("merchant_manually_set", .bool t.merchantManual)]

/-- The fields in their order. -/
def fields : Json.Decode Transaction := do
  let id ← Json.required "id" Json.asId?
  let user ← Json.required "user_id" Json.asText?
  let account ← Json.required "account_id" Json.asId?
  let amount ← Json.required "amount" Json.asDecimal?
  let direction ← Json.optional "direction" Json.asInt32?
  let description ← Json.optional "description" Json.asText?
  let merchant ← Json.optional "merchant" Json.asText?
  let currency ← Json.optional "currency" Json.asText?
  let category ← Json.optional "category_id" Json.asInt64?
  let date ← Json.required "transaction_date" Json.asDate?
  let createdAt ← Json.required "created_at" Json.asInstant?
  let updatedAt ← Json.required "updated_at" Json.asInstant?
  let categoryManual ← Json.required "category_manually_set" Json.asBool?
  let merchantManual ← Json.required "merchant_manually_set" Json.asBool?
  return ⟨id, user, account, amount, direction, description, merchant, currency, category, date,
    createdAt, updatedAt, categoryManual, merchantManual⟩

/-- Reads the written form. -/
def ofJson? : Json → Option Transaction := Json.decode? fields

end Transaction

namespace NewTransaction

/-- The written form. -/
def toJson (new : NewTransaction) : Json :=
  .object [("account_id", .str new.account.text), ("amount", .str new.amount.toText),
    ("direction", .ofInt32? new.direction), ("description", .ofText? new.description),
    ("merchant", .ofText? new.merchant), ("currency", .ofText? new.currency),
    ("category_id", .ofInt64? new.category), ("merchant_manually_set", .bool new.merchantManual),
    ("transaction_date", .ofText? (new.date.map Date.text))]

/-- The fields in their order. -/
def fields : Json.Decode NewTransaction := do
  let account ← Json.required "account_id" Json.asId?
  let amount ← Json.required "amount" Json.asDecimal?
  let direction ← Json.optional "direction" Json.asInt32?
  let description ← Json.optional "description" Json.asText?
  let merchant ← Json.optional "merchant" Json.asText?
  let currency ← Json.optional "currency" Json.asText?
  let category ← Json.optional "category_id" Json.asInt64?
  let merchantManual ← Json.defaulted "merchant_manually_set" false Json.asBool?
  let date ← Json.optional "transaction_date" Json.asDate?
  return ⟨account, amount, direction, description, merchant, currency, category, merchantManual,
    date⟩

/-- Reads the written form. -/
def ofJson? : Json → Option NewTransaction := Json.decode? fields

/-- The transaction that a request asks for, on an account: the direction comes
from the sign unless it is given, the currency from the account, the date from
`today`.  A category given here counts as set by hand; a merchant does if the
request says so. -/
def transaction (new : NewTransaction) (account : Account) (id : Id) (user : String)
    (today : Date) (now : Instant) : Transaction :=
  let merchant := normalizeMerchant new.merchant
  { id, user, account := account.id, amount := new.amount
    direction := some (new.direction.getD (directionOf new.amount))
    description := new.description
    merchant
    currency := some ((new.currency.map normalizeCurrency).getD account.currency)
    category := new.category
    date := new.date.getD today
    createdAt := now, updatedAt := now
    categoryManual := new.category.isSome
    merchantManual := new.merchantManual && merchant.isSome }

end NewTransaction

namespace TransactionUpdate

/-- The written form. -/
def toJson (u : TransactionUpdate) : Json :=
  .object [("amount", .ofText? (u.amount.map Decimal.toText)),
    ("description", .ofText? u.description), ("merchant", .ofText? u.merchant),
    ("category_id", .ofInt64? u.category), ("transaction_date", .ofText? (u.date.map Date.text)),
    ("release_category", .bool u.releaseCategory), ("release_merchant", .bool u.releaseMerchant)]

/-- The fields in their order. -/
def fields : Json.Decode TransactionUpdate := do
  let amount ← Json.optional "amount" Json.asDecimal?
  let description ← Json.optional "description" Json.asText?
  let merchant ← Json.optional "merchant" Json.asText?
  let category ← Json.optional "category_id" Json.asInt64?
  let date ← Json.optional "transaction_date" Json.asDate?
  let releaseCategory ← Json.defaulted "release_category" false Json.asBool?
  let releaseMerchant ← Json.defaulted "release_merchant" false Json.asBool?
  return ⟨amount, description, merchant, category, date, releaseCategory, releaseMerchant⟩

/-- Reads the written form. -/
def ofJson? : Json → Option TransactionUpdate := Json.decode? fields

/-- Whether an update touches a field that rules look at.  To give the value it
had already counts as well. -/
def changesRuleInputs (u : TransactionUpdate) : Bool :=
  u.amount.isSome || u.description.isSome || u.merchant.isSome

/-- Whether rules run again after an update. -/
def reapplies (u : TransactionUpdate) : Bool :=
  u.changesRuleInputs || u.releaseCategory || u.releaseMerchant

/-- The transaction after an update.  A merchant given here is set by hand
unless it is blank, a category always; what is released is no longer set by
hand. -/
def apply (u : TransactionUpdate) (t : Transaction) : Transaction :=
  let merchant := match u.merchant with
    | some m => normalizeMerchant (some m)
    | none => t.merchant
  let merchantManual := match u.merchant with
    | some _ => merchant.isSome
    | none => t.merchantManual
  { t with
    amount := u.amount.getD t.amount
    description := u.description.or t.description
    merchant
    category := u.category.or t.category
    date := u.date.getD t.date
    categoryManual := (u.category.isSome || t.categoryManual) && !u.releaseCategory
    merchantManual := merchantManual && !u.releaseMerchant }

end TransactionUpdate
end LedgerRules
