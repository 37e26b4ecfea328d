/-
# Records in rows

A record that fits its cells has a row, and the row is read back as that record:
an account as it was, a transaction with its amount in hundredths, a rule with
its body validated again.  Amounts and the numbers in bodies keep their values
(`Transaction.SameValue`, `Rule.SameValue`), and rows are made of values only,
so what was read is written back as the row it came from.
-/

import LedgerRules.Proofs.Conditions.Stored
import LedgerRules.Proofs.Number.Cents
import LedgerRules.Proofs.Time.Cells

namespace LedgerRules

/-- Two results one after the other are one if both are there.  Reading a row is
a chain of such steps, and this takes it apart from its result. -/
theorem bind_eq_ok {ε α β : Type} {x : Except ε α} {f : α → Except ε β} {b : β} :
    x >>= f = .ok b ↔ ∃ a, x = .ok a ∧ f a = .ok b := by
  cases x with
  | error e => exact ⟨nofun, fun ⟨_, h, _⟩ => nomatch h⟩
  | ok a => exact ⟨fun h => ⟨a, rfl, h⟩, fun ⟨_, rfl, h⟩ => h⟩

/-- A result that is changed is there if the result is. -/
theorem map_eq_ok {ε α β : Type} {x : Except ε α} {f : α → β} {b : β} :
    f <$> x = .ok b ↔ ∃ a, x = .ok a ∧ f a = b := by
  cases x with
  | error e => exact ⟨nofun, fun ⟨_, h, _⟩ => nomatch h⟩
  | ok a => exact ⟨fun h => ⟨a, rfl, Except.ok.inj h⟩, fun ⟨_, rfl, h⟩ => congrArg _ h⟩

/-! ### Accounts -/

/-- The times of the account fit cells. -/
structure Account.FitsCells (a : Account) : Prop where
  createdAt : a.createdAt.FitsCell
  updatedAt : a.updatedAt.FitsCell

/-- The row of an account whose times fit, written without asking whether they
do.  The statement asks and fails if they do not. -/
def AccountRow.of (a : Account) : AccountRow :=
  ⟨a.id.text, a.user, a.name, a.accountType, a.bank, a.currency, .finite a.createdAt.micros,
    .finite a.updatedAt.micros⟩

namespace Account.FitsCells

variable {a : Account}

/-- An account that fits has its row: no cell refuses its value. -/
theorem ofRecord? (h : a.FitsCells) : AccountRow.ofRecord? a = some (.of a) := by
  unfold AccountRow.ofRecord?
  rw [h.createdAt.toCell?, h.updatedAt.toCell?]
  rfl

/-- **An account is read back as it was.** Its texts and its identifier are kept
as they are, and its times fit. -/
theorem toRecord (h : a.FitsCells) : (AccountRow.of a).toRecord = .ok a := by
  have hid : readId a.id.text = .ok a.id := by
    unfold readId
    rw [Id.parse?_text]
  unfold AccountRow.toRecord AccountRow.of
  dsimp only
  rw [hid, h.createdAt.read, h.updatedAt.read]
  rfl

end Account.FitsCells

/-! ### Transactions -/

/-- The amount, the date and the times of the transaction fit cells. -/
structure Transaction.FitsCells (t : Transaction) : Prop where
  amount : t.amount.FitsCell
  date : t.date.FitsCell
  createdAt : t.createdAt.FitsCell
  updatedAt : t.updatedAt.FitsCell

/-- The row of a transaction whose values fit, written without asking whether
they do; its amount is rounded to hundredths. -/
def TransactionRow.of (t : Transaction) : TransactionRow :=
  { id := t.id.text, user := t.user, account := t.account.text, cents := t.amount.toCents
    direction := t.direction, description := t.description, merchant := t.merchant
    currency := t.currency, category := t.category
    categoryManual := t.categoryManual, merchantManual := t.merchantManual
    date := .finite t.date, createdAt := .finite t.createdAt.micros
    updatedAt := .finite t.updatedAt.micros }

/-- A transaction that has a row has the row of its values, and its amount has
room in its column. -/
theorem TransactionRow.ofRecord?_eq_some {t : Transaction} {row : TransactionRow}
    (h : ofRecord? t = some row) :
    row = .of t ∧ t.amount.toCents.natAbs < Decimal.centsLimit := by
  unfold ofRecord? at h
  simp only [Option.bind_eq_bind, Option.bind_eq_some_iff] at h
  obtain ⟨cents, hcents, date, hdate, createdAt, hcreated, updatedAt, hupdated, hrow⟩ := h
  obtain rfl := (Date.toCell?_eq_some hdate).1
  obtain rfl := (Instant.toCell?_eq_some hcreated).1
  obtain rfl := (Instant.toCell?_eq_some hupdated).1
  unfold Decimal.toCell? at hcents
  split at hcents
  · rename_i hroom
    rw [← Option.some.inj hcents] at hrow
    exact ⟨(Option.some.inj hrow).symm, hroom⟩
  · cases hcents

/-- A transaction that is read from a row has the identifier in it. -/
theorem TransactionRow.readId_of_toRecord {row : TransactionRow} {t : Transaction}
    (h : row.toRecord = .ok t) : readId row.id = .ok t.id := by
  unfold toRecord at h
  obtain ⟨id, hid, h⟩ := bind_eq_ok.1 h
  obtain ⟨account, -, h⟩ := bind_eq_ok.1 h
  obtain ⟨date, -, h⟩ := bind_eq_ok.1 h
  obtain ⟨createdAt, -, h⟩ := bind_eq_ok.1 h
  obtain ⟨updatedAt, -, h⟩ := bind_eq_ok.1 h
  rw [hid, ← Except.ok.inj h]

/-- Two transactions agree, amounts compared by value; the times of their last
changes are as `close` says.  All else is the same. -/
structure Transaction.SameValue (close : Instant → Instant → Prop) (t t' : Transaction) : Prop where
  amount : t'.amount.value = t.amount.value
  updatedAt : close t.updatedAt t'.updatedAt
  others : t' = { t with amount := t'.amount, updatedAt := t'.updatedAt }

namespace Transaction.FitsCells

variable {t : Transaction}

/-- A transaction that fits has its row, and its amount is a whole number of
hundredths there. -/
theorem ofRecord? (h : t.FitsCells) : TransactionRow.ofRecord? t = some (.of t) := by
  unfold TransactionRow.ofRecord?
  rw [h.amount.toCell?, h.date.toCell?, h.createdAt.toCell?, h.updatedAt.toCell?]
  rfl

/-- **A transaction is read back** with its amount in hundredths, which is the
amount by value if it fits. -/
theorem toRecord (h : t.FitsCells) :
    (TransactionRow.of t).toRecord = .ok { t with amount := .ofCents t.amount.toCents } := by
  have hid : ∀ id : Id, readId id.text = .ok id := by
    intro id
    unfold readId
    rw [Id.parse?_text]
  unfold TransactionRow.toRecord TransactionRow.of
  dsimp only
  rw [hid, hid, h.date.read, h.createdAt.read, h.updatedAt.read]
  rfl

end Transaction.FitsCells

/-! ### Rules -/

/-- The times of the rule fit cells, and its body was accepted with whole
numbers.  Every rule that a service stores has an accepted body; that its
numbers are whole is asked because the text of a double may be read back as
another one. -/
structure Rule.FitsCells (r : Rule) : Prop where
  conditions : r.conditions.FitsCell
  accepted : ∃ body, Conditions.validate body = .accepted r.conditions
  lastAppliedAt : ∀ t ∈ r.lastAppliedAt, t.FitsCell
  createdAt : r.createdAt.FitsCell
  updatedAt : r.updatedAt.FitsCell

/-- The row of a rule whose times fit, with its body as compact JSON.  That text
is all that a database has of the body. -/
def RuleRow.of (r : Rule) : RuleRow :=
  { id := r.id.text, user := r.user, name := r.name, conditions := r.conditions.toJson.compact
    category := r.category, merchant := r.merchant, active := r.active, priority := r.priority
    source := r.source.name, timesApplied := r.timesApplied
    lastAppliedAt := r.lastAppliedAt.map fun t => .finite t.micros
    createdAt := .finite r.createdAt.micros, updatedAt := .finite r.updatedAt.micros }

/-- A rule that has a row has the row of its values. -/
theorem RuleRow.ofRecord?_eq_some {r : Rule} {row : RuleRow} (h : ofRecord? r = some row) :
    row = .of r := by
  unfold ofRecord? at h
  unfold RuleRow.of
  cases hl : r.lastAppliedAt with
  | none =>
    rw [hl] at h
    simp only [Option.bind_eq_bind, Option.bind_some, Option.bind_eq_some_iff] at h
    obtain ⟨createdAt, hcreated, updatedAt, hupdated, hrow⟩ := h
    rw [(Instant.toCell?_eq_some hcreated).1, (Instant.toCell?_eq_some hupdated).1] at hrow
    exact (Option.some.inj hrow).symm
  | some t =>
    rw [hl] at h
    simp only [Option.bind_eq_bind, Option.bind_eq_some_iff, Option.map_eq_map,
      Option.map_eq_some_iff] at h
    obtain ⟨_, ⟨last, hlast, rfl⟩, createdAt, hcreated, updatedAt, hupdated, hrow⟩ := h
    rw [(Instant.toCell?_eq_some hlast).1, (Instant.toCell?_eq_some hcreated).1,
      (Instant.toCell?_eq_some hupdated).1] at hrow
    exact (Option.some.inj hrow).symm

/-- A rule that is read from a row was applied as often as the row says, and for
the last time when it says, to the microsecond. -/
theorem RuleRow.usage_of_toRecord {row : RuleRow} {r : Rule} {last : Option Instant}
    (hlast : row.lastAppliedAt = last.map fun t => .finite t.micros) (h : row.toRecord = .ok r) :
    r.timesApplied = row.timesApplied ∧ r.lastAppliedAt = last.map Instant.cut := by
  unfold toRecord at h
  simp only [bind_eq_ok, hlast] at h
  obtain ⟨id, -, h⟩ := h
  split at h
  · obtain ⟨conditions, -, h⟩ := bind_eq_ok.1 h
    cases last with
    | none =>
      simp only [Option.map_none, bind_eq_ok] at h
      obtain ⟨_, hnone, createdAt, -, updatedAt, -, h⟩ := h
      obtain rfl := Except.ok.inj hnone
      obtain rfl := Except.ok.inj h
      exact ⟨rfl, rfl⟩
    | some t =>
      simp only [Option.map_some, bind_eq_ok, map_eq_ok] at h
      obtain ⟨_, ⟨s, hread, rfl⟩, createdAt, -, updatedAt, -, h⟩ := h
      obtain rfl := Except.ok.inj h
      exact ⟨rfl, congrArg some (Instant.eq_cut_of_read hread)⟩
  · obtain ⟨conditions, hnone, -⟩ := bind_eq_ok.1 h
    cases hnone

/-- A body has the same value as itself. -/
theorem Conditions.sameValue_refl (c : Conditions) : c.sameValue c = true := by
  refine Conditions.sameValue_iff.2 ⟨rfl, List.forall₂_same.2 fun c _ => ?_⟩
  cases c with
  | text f t caseSensitive => simp [Condition.sameValue]
  | numeric f t =>
    have htest : t.sameValue t = true :=
      NumericTest.sameValue_iff.2 ⟨rfl, List.forall₂_same.2 fun _ _ => rfl⟩
    simp [Condition.sameValue, htest]

/-- Two rules agree, the numbers in their bodies compared by value, so `2` and
`2.00` are told apart by neither. -/
structure Rule.SameValue (r r' : Rule) : Prop where
  conditions : r'.conditions.sameValue r.conditions = true
  others : r' = { r with conditions := r'.conditions }

/-- A rule agrees with itself. -/
theorem Rule.SameValue.refl (r : Rule) : r.SameValue r := ⟨r.conditions.sameValue_refl, rfl⟩

/-- The source of a rule is read back from its name. -/
theorem RuleSource.ofName?_name (s : RuleSource) : RuleSource.ofName? s.name = some s := by
  cases s <;> decide

namespace Rule.FitsCells

variable {r : Rule}

/-- A rule that fits has its row. -/
theorem ofRecord? (h : r.FitsCells) : RuleRow.ofRecord? r = some (.of r) := by
  have hlast := h.lastAppliedAt
  unfold RuleRow.ofRecord? RuleRow.of
  rw [h.createdAt.toCell?, h.updatedAt.toCell?]
  cases hl : r.lastAppliedAt with
  | none => rfl
  | some t =>
    rw [hl] at hlast
    dsimp only
    rw [(hlast t rfl).toCell?]
    rfl

/-- **A rule is read back**, its body validated again as `RawRule.into_rule`
does; it is accepted since it was accepted before. -/
theorem toRecord (h : r.FitsCells) : ∃ r', (RuleRow.of r).toRecord = .ok r' ∧ r.SameValue r' := by
  obtain ⟨body, hbody⟩ := h.accepted
  obtain ⟨c, hc, hsame⟩ := h.conditions.validateText_compact hbody
  have hlast := h.lastAppliedAt
  have hid : readId r.id.text = .ok r.id := by
    unfold readId
    rw [Id.parse?_text]
  refine ⟨{ r with conditions := c }, ?_, hsame, rfl⟩
  unfold RuleRow.toRecord RuleRow.of
  dsimp only
  rw [hid, hc, h.createdAt.read, h.updatedAt.read, RuleSource.ofName?_name]
  cases hl : r.lastAppliedAt with
  | none => rfl
  | some t =>
    rw [hl] at hlast
    dsimp only [Option.map_some]
    rw [(hlast t rfl).read]
    rfl

end Rule.FitsCells
end LedgerRules
