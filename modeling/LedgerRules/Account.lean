/-
# Accounts

An account belongs to a user and gives rules its type, its name and its bank to
look at.  A currency code is kept trimmed and in uppercase.

Embeds `Account`, `AccountContext` and `NewAccount` (section 3 of the
specification, Data Model), with `Account.new`, `Account.normalize_currency`,
`Account.validate` and `Account.context`.  `NewAccount.account` is the record
that `LedgerService.add_account` builds of a request.
-/

import LedgerRules.Error
import LedgerRules.Json.Decode
import LedgerRules.Text.Case

namespace LedgerRules

/-- An account of a user. -/
structure Account where
  id : Id
  user : String
  name : String
  accountType : Option String := none
  bank : Option String := none
  currency : String := "USD"
  createdAt : Instant
  updatedAt : Instant
  deriving DecidableEq, Repr

/-- What rules see of an account (`AccountContext`).  The currency is not among
it: a condition on the currency looks at the transaction. -/
structure AccountView where
  accountType : Option String
  name : Option String
  bank : Option String
  deriving DecidableEq, Repr

/-- A request for a new account. -/
structure NewAccount where
  name : String
  accountType : Option String := none
  bank : Option String := none
  currency : Option String := none
  deriving DecidableEq, Repr

/-- A currency code as it is kept: trimmed and in uppercase
(`Account.normalize_currency`). -/
def normalizeCurrency (code : String) : String := Text.upper (Text.trim code)

/-- A text that is not blank, as it is. -/
def nonBlank? (s : Option String) : Option String := s.filter (!Text.isBlankText ·)

namespace AccountView

/-- The written form. -/
def toJson (v : AccountView) : Json :=
  .object [("account_type", .ofText? v.accountType), ("name", .ofText? v.name),
    ("bank", .ofText? v.bank)]

/-- The fields in their order. -/
def fields : Json.Decode AccountView := do
  let accountType ← Json.optional "account_type" Json.asText?
  let name ← Json.optional "name" Json.asText?
  let bank ← Json.optional "bank" Json.asText?
  return ⟨accountType, name, bank⟩

/-- Reads the written form. -/
def ofJson? : Json → Option AccountView := Json.decode? fields

end AccountView

namespace NewAccount

/-- The written form. -/
def toJson (new : NewAccount) : Json :=
  .object [("name", .str new.name), ("account_type", .ofText? new.accountType),
    ("bank", .ofText? new.bank), ("currency", .ofText? new.currency)]

/-- The fields in their order. -/
def fields : Json.Decode NewAccount := do
  let name ← Json.required "name" Json.asText?
  let accountType ← Json.optional "account_type" Json.asText?
  let bank ← Json.optional "bank" Json.asText?
  let currency ← Json.optional "currency" Json.asText?
  return ⟨name, accountType, bank, currency⟩

/-- Reads the written form. -/
def ofJson? : Json → Option NewAccount := Json.decode? fields

/-- The account that a request asks for. -/
def account (new : NewAccount) (id : Id) (user : String) (now : Instant) : Account :=
  { id, user, name := Text.trim new.name
    accountType := nonBlank? new.accountType
    bank := nonBlank? new.bank
    currency := (new.currency.map normalizeCurrency).getD "USD"
    createdAt := now, updatedAt := now }

end NewAccount

namespace Account

/-- What rules see of the account. -/
def view (a : Account) : AccountView := ⟨a.accountType, some a.name, a.bank⟩

/-- What is wrong with an account (`Account.validate`).  The name is looked at
first. -/
def complaint? (a : Account) : Option Complaint :=
  if Text.isBlankText a.name then some .accountNameBlank
  else if Text.isBlankText a.currency then some .currencyBlank
  else none

/-- The written form. -/
def toJson (a : Account) : Json :=
  .object [("id", .str a.id.text), ("user_id", .str a.user), ("name", .str a.name),
    ("account_type", .ofText? a.accountType), ("bank", .ofText? a.bank),
    ("currency", .str a.currency), ("created_at", .str a.createdAt.text),
    ("updated_at", .str a.updatedAt.text)]

/-- The fields in their order. -/
def fields : Json.Decode Account := do
  let id ← Json.required "id" Json.asId?
  let user ← Json.required "user_id" Json.asText?
  let name ← Json.required "name" Json.asText?
  let accountType ← Json.optional "account_type" Json.asText?
  let bank ← Json.optional "bank" Json.asText?
  let currency ← Json.required "currency" Json.asText?
  let createdAt ← Json.required "created_at" Json.asInstant?
  let updatedAt ← Json.required "updated_at" Json.asInstant?
  return ⟨id, user, name, accountType, bank, currency, createdAt, updatedAt⟩

/-- Reads the written form. -/
def ofJson? : Json → Option Account := Json.decode? fields

end Account
end LedgerRules
