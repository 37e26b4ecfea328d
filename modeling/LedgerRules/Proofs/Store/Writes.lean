/-
# What a call writes

There are few ways in which a call writes to a store.  One that only reads
leaves the store as it is, and so does one that is refused; any other puts a
record last, changes records in their places or takes rules out.  `Memory.Wrote`
and `Database.Wrote` list these ways, each with what holds when it is taken, and
`wrote_answer` says that there are no others.  What calls leave alone is read
off the lists, and so is what they keep; nothing of this looks at how a call is
answered.
-/

import LedgerRules.Proofs.Store.Records
import LedgerRules.Proofs.Store.Rows
import LedgerRules.Proofs.Store.Runs

namespace LedgerRules

/-! ### Records -/

namespace Memory

variable {m m' : Memory} {c : Call} {ok : Bool}

/-- What a call may make of a store of records, and whether it succeeds.  There
is a case for each method of `MemoryStore` that writes, with what it has checked
before; `refused` stands for every failure, which leaves the tables as they
were. -/
inductive Wrote (m : Memory) : Call → Bool → Memory → Prop
  | read {c : Call} {ok : Bool} (h : c.table? = none) : Wrote m c ok m
  | refused {c : Call} : Wrote m c false m
  | accountAdded (a : Account) :
      Wrote m (.insertAccount a) true { m with accounts := m.accounts ++ [a] }
  | transactionAdded {t : Transaction} (hnew : ∀ s ∈ m.transactions, s.id ≠ t.id) :
      Wrote m (.insertTransaction t) true { m with transactions := m.transactions ++ [t] }
  | transactionReplaced {t old : Transaction} (hold : m.transaction? t.user t.id = some old) :
      Wrote m (.updateTransaction t) true { m with
        transactions := modifyFirst (fun s => s.id == t.id && s.user == t.user) (fun _ => t)
          m.transactions }
  | groupRejected {user : String} {category : Option Int64} {merchant : Option String}
      {ids : List Id} {now : Instant} (hf : (category, merchant) ∈ m.failing) :
      Wrote m (.assign user category merchant ids now) false
        { m with attempts := m.attempts ++ [⟨category, merchant, ids, false⟩] }
  | groupAssigned {user : String} {category : Option Int64} {merchant : Option String}
      {ids : List Id} {now : Instant} (hf : (category, merchant) ∉ m.failing) :
      Wrote m (.assign user category merchant ids now) true { m with
        attempts := m.attempts ++ [⟨category, merchant, ids, true⟩]
        transactions := m.transactions.map fun t =>
          if reaches user ids t then t.assign category merchant now else t }
  | ruleAdded {r : Rule} (hnew : ∀ s ∈ m.rules, s.id ≠ r.id) :
      Wrote m (.insertRule r) true { m with rules := m.rules ++ [r] }
  | ruleReplaced {r old : Rule} (hold : m.rule? r.user r.id = some old) :
      Wrote m (.updateRule r) true { m with
        rules := modifyFirst (fun s => s.id == r.id && s.user == r.user) (·.replace r) m.rules }
  | rulesDeleted (user : String) (id : Id) : Wrote m (.deleteRule user id) true
      { m with rules := m.rules.filter fun r => !(r.id == id && r.user == user) }
  | ruleCounted (id : Id) (count : Nat) (now : Instant) :
      Wrote m (.recordApplications id count now) true (m.count id count now)

/-- **A store of records is written to in no other way.** What is shown of every
case of `Wrote` holds of every call. -/
theorem wrote_answer (m : Memory) (c : Call) :
    m.Wrote c (m.answer c).1.isOk (m.answer c).2 := by
  cases c with
  | insertAccount a => exact .accountAdded a
  | insertTransaction t =>
    dsimp only [answer]
    split
    · exact .refused
    · rename_i hdup
      exact .transactionAdded fun s hs he =>
        hdup (List.any_eq_true.2 ⟨s, hs, beq_iff_eq.2 he⟩)
  | updateTransaction t =>
    dsimp only [answer]
    split
    · exact .refused
    · rename_i old hold
      exact .transactionReplaced hold
  | assign user category merchant ids now =>
    show m.Wrote _ (m.assign user category merchant ids now).1.isOk
      (m.assign user category merchant ids now).2
    by_cases hf : (category, merchant) ∈ m.failing
    · rw [assign_of_failing hf]
      exact .groupRejected hf
    · rw [assign_of_not_failing hf]
      exact .groupAssigned hf
  | insertRule r =>
    dsimp only [answer]
    split
    · exact .refused
    · rename_i hdup
      exact .ruleAdded fun s hs he => hdup (List.any_eq_true.2 ⟨s, hs, beq_iff_eq.2 he⟩)
  | updateRule r =>
    dsimp only [answer]
    split
    · exact .refused
    · rename_i old hold
      exact .ruleReplaced hold
  | deleteRule user id => exact .rulesDeleted user id
  | recordApplications id count now => exact .ruleCounted id count now
  | _ => exact .read rfl

/-- What has an identifier of its own is put last. -/
theorem answer_insertTransaction {t : Transaction} (hnew : ∀ s ∈ m.transactions, s.id ≠ t.id) :
    m.answer (.insertTransaction t) =
      (.ok (), { m with transactions := m.transactions ++ [t] }) := by
  refine if_neg fun hany => ?_
  obtain ⟨s, hs, he⟩ := List.any_eq_true.1 hany
  exact hnew s hs (beq_iff_eq.1 he)

/-- A rule whose identifier no rule has is put last, and nothing else changes. -/
theorem answer_insertRule {r : Rule} (hnew : ∀ s ∈ m.rules, s.id ≠ r.id) :
    m.answer (.insertRule r) = (.ok (), { m with rules := m.rules ++ [r] }) := by
  refine if_neg fun hany => ?_
  obtain ⟨s, hs, he⟩ := List.any_eq_true.1 hany
  exact hnew s hs (beq_iff_eq.1 he)

/-- A transaction that is found is replaced by the one that is given, as a
whole. -/
theorem answer_updateTransaction {t old : Transaction}
    (hold : m.transaction? t.user t.id = some old) :
    m.answer (.updateTransaction t) = (.ok (), { m with
      transactions := modifyFirst (fun s => s.id == t.id && s.user == t.user) (fun _ => t)
        m.transactions }) := by
  dsimp only [answer]
  rw [hold]

/-- A rule that is found is replaced, save that its usage stays
(`Rule.replace`). -/
theorem answer_updateRule {r old : Rule} (hold : m.rule? r.user r.id = some old) :
    m.answer (.updateRule r) = (.ok (), { m with
      rules := modifyFirst (fun s => s.id == r.id && s.user == r.user) (·.replace r)
        m.rules }) := by
  dsimp only [answer]
  rw [hold]

/-- A call that writes to no table leaves the store as it is. -/
theorem Wrote.eq_of_reads (h : m.Wrote c ok m') (hc : c.table? = none) : m' = m := by
  cases h with
  | read | refused => rfl
  | _ => cases hc

/-- No call but a grouped write depends on which writes fail, and none changes
that. -/
theorem Wrote.failing (h : m.Wrote c ok m') : m'.failing = m.failing := by
  cases h with
  | ruleCounted id count now => exact (m.sameButUsage_count id count now).failing
  | _ => rfl

end Memory

/-! ### Rows -/

namespace Database

variable {d d' : Database} {c : Call} {ok : Bool}

/-- A row after a transaction was written over the one it stands for.  The
statement does not name the time of creation, which stays that of the row. -/
def writtenOver (t : Transaction) (row : TransactionRow) : TransactionRow :=
  if hits t.user t.id row.id row.user then { TransactionRow.of t with createdAt := row.createdAt }
  else row

/-- What a call may make of a store of rows, and whether it succeeds.  There is
a case for each statement of `DuckDbRepository` that writes; `refused` stands
for a statement that fails and for a table that is closed. -/
inductive Wrote (d : Database) : Call → Bool → Database → Prop
  | read {c : Call} {ok : Bool} (h : c.table? = none) : Wrote d c ok d
  | refused {c : Call} : Wrote d c false d
  | accountAdded {a : Account} {row : AccountRow} (hrow : AccountRow.ofRecord? a = some row) :
      Wrote d (.insertAccount a) true { d with accounts := d.accounts ++ [row] }
  | transactionAdded {t : Transaction} (hroom : t.amount.toCents.natAbs < Decimal.centsLimit)
      (hnew : ∀ row ∈ d.transactions, row.id ≠ t.id.text) :
      Wrote d (.insertTransaction t) true { d with transactions := d.transactions ++ [.of t] }
  | transactionReplaced {t : Transaction} (hroom : t.amount.toCents.natAbs < Decimal.centsLimit) :
      Wrote d (.updateTransaction t) true { d with
        transactions := d.transactions.map (writtenOver t) }
  | groupIdle {user : String} {category : Option Int64} {merchant : Option String}
      {ids : List Id} {now : Instant} :
      Wrote d (.assign user category merchant ids now) true d
  | groupAssigned (user : String) (category : Option Int64) (merchant : Option String)
      (ids : List Id) (now : Instant) :
      Wrote d (.assign user category merchant ids now) true { d with
        transactions := d.transactions.map fun row =>
          if row.user == user && ids.any fun id => row.id == id.text then { row with
            category := category.or row.category
            merchant := merchant.or row.merchant
            updatedAt := .finite now.micros }
          else row }
  | ruleAdded {r : Rule} (hnew : ∀ row ∈ d.rules, row.id ≠ r.id.text) :
      Wrote d (.insertRule r) true { d with rules := d.rules ++ [.of r] }
  | ruleReplaced (r : Rule) :
      Wrote d (.updateRule r) true { d with
        rules := d.rules.map fun row =>
          if hits r.user r.id row.id row.user then { row with
            name := r.name, conditions := r.conditions.toJson.compact
            category := r.category, merchant := r.merchant, active := r.active
            priority := r.priority, source := r.source.name
            updatedAt := .finite r.updatedAt.micros }
          else row }
  | rulesDeleted (user : String) (id : Id) : Wrote d (.deleteRule user id) true
      { d with rules := d.rules.filter fun row => !hits user id row.id row.user }
  | noneCounted (id : Id) (now : Instant) : Wrote d (.recordApplications id 0 now) true d
  | ruleCounted {id : Id} {count : Nat} {now : Instant} (hcount : count ≠ 0) :
      Wrote d (.recordApplications id count now) true { d with
        rules := d.rules.map fun row =>
          if row.id == id.text then { row with
            timesApplied := row.timesApplied + count, lastAppliedAt := some (.finite now.micros) }
          else row }

/-! ### Statements on rows -/

/-- `insert_account` adds a row for the account or is refused. -/
theorem wrote_insertAccount (d : Database) (a : Account) :
    d.Wrote (.insertAccount a) (d.insertAccount a).1.isOk (d.insertAccount a).2 := by
  unfold insertAccount
  split
  · exact .refused
  · rename_i row hrow
    split
    · exact .refused
    · exact .accountAdded hrow

/-- `insert_transaction` adds a row if the amount has room in its column and the
key is new. -/
theorem wrote_insertTransaction (d : Database) (t : Transaction) :
    d.Wrote (.insertTransaction t) (d.insertTransaction t).1.isOk (d.insertTransaction t).2 := by
  unfold insertTransaction
  split
  · exact .refused
  · rename_i row hrow
    obtain ⟨rfl, hroom⟩ := TransactionRow.ofRecord?_eq_some hrow
    split
    · exact .refused
    · rename_i hfree
      rw [Bool.or_eq_true, not_or] at hfree
      exact .transactionAdded hroom fun row hrow he =>
        hfree.2 (List.any_eq_true.2 ⟨row, hrow, beq_iff_eq.2 he⟩)

/-- `update_transaction` writes over the rows it finds, or finds none and fails. -/
theorem wrote_updateTransaction (d : Database) (t : Transaction) :
    d.Wrote (.updateTransaction t) (d.updateTransaction t).1.isOk (d.updateTransaction t).2 := by
  unfold updateTransaction
  split
  · exact .refused
  · split
    · exact .refused
    · split
      · exact .refused
      · rename_i new hnew
        obtain ⟨rfl, hroom⟩ := TransactionRow.ofRecord?_eq_some hnew
        exact .transactionReplaced hroom

/-- `persist_grouped_update` changes the rows that it finds, or sends nothing. -/
theorem wrote_assign (d : Database) (user : String) (category : Option Int64)
    (merchant : Option String) (ids : List Id) (now : Instant) :
    d.Wrote (.assign user category merchant ids now)
      (d.assign user category merchant ids now).1.isOk
      (d.assign user category merchant ids now).2 := by
  unfold assign
  split
  · exact .groupIdle
  · split
    · exact .refused
    · rename_i cell hcell
      obtain rfl := (Instant.toCell?_eq_some hcell).1
      split
      · exact .refused
      · exact .groupAssigned user category merchant ids now

/-- `insert_rule` adds a row for the rule if the key is new. -/
theorem wrote_insertRule (d : Database) (r : Rule) :
    d.Wrote (.insertRule r) (d.insertRule r).1.isOk (d.insertRule r).2 := by
  unfold insertRule
  split
  · exact .refused
  · rename_i row hrow
    obtain rfl := RuleRow.ofRecord?_eq_some hrow
    split
    · exact .refused
    · rename_i hfree
      rw [Bool.or_eq_true, not_or] at hfree
      exact .ruleAdded fun row hrow he =>
        hfree.2 (List.any_eq_true.2 ⟨row, hrow, beq_iff_eq.2 he⟩)

/-- `update_rule` writes over the rows it finds, or finds none and fails. -/
theorem wrote_updateRule (d : Database) (r : Rule) :
    d.Wrote (.updateRule r) (d.updateRule r).1.isOk (d.updateRule r).2 := by
  unfold updateRule
  split
  · exact .refused
  · split
    · exact .refused
    · split
      · exact .refused
      · rename_i cell hcell
        obtain rfl := (Instant.toCell?_eq_some hcell).1
        exact .ruleReplaced r

/-- `delete_rule` takes out the rows it finds; it succeeds also where it finds
none. -/
theorem wrote_deleteRule (d : Database) (user : String) (id : Id) :
    d.Wrote (.deleteRule user id) (d.deleteRule user id).1.isOk (d.deleteRule user id).2 := by
  unfold deleteRule
  split
  · exact .refused
  · exact .rulesDeleted user id

/-- `record_rule_applications` adds to the counters of the rows it finds,
whoever's they are. -/
theorem wrote_recordApplications (d : Database) (id : Id) (count : Nat) (now : Instant) :
    d.Wrote (.recordApplications id count now) (d.recordApplications id count now).1.isOk
      (d.recordApplications id count now).2 := by
  unfold recordApplications
  split
  · rename_i hcount
    subst hcount
    exact .noneCounted id now
  · rename_i hcount
    split
    · exact .refused
    · rename_i cell hcell
      obtain rfl := (Instant.toCell?_eq_some hcell).1
      split
      · exact .refused
      · exact .ruleCounted hcount

/-- **A store of rows is written to in no other way.** What is shown of every
case of `Wrote` holds of every call. -/
theorem wrote_answer (d : Database) (c : Call) :
    d.Wrote c (d.answer c).1.isOk (d.answer c).2 := by
  cases c with
  | insertAccount a => exact d.wrote_insertAccount a
  | insertTransaction t => exact d.wrote_insertTransaction t
  | updateTransaction t => exact d.wrote_updateTransaction t
  | assign user category merchant ids now => exact d.wrote_assign user category merchant ids now
  | insertRule r => exact d.wrote_insertRule r
  | updateRule r => exact d.wrote_updateRule r
  | deleteRule user id => exact d.wrote_deleteRule user id
  | recordApplications id count now => exact d.wrote_recordApplications id count now
  | _ => exact .read rfl

/-- A call that writes to no table leaves the store as it is. -/
theorem Wrote.eq_of_reads (h : d.Wrote c ok d') (hc : c.table? = none) : d' = d := by
  cases h with
  | read | refused => rfl
  | _ => cases hc

/-- The rows of transactions are left alone by calls on other tables, whether
they succeed or not. -/
theorem Wrote.transactions (h : d.Wrote c ok d') (hc : c.table? ≠ some .transactions) :
    d'.transactions = d.transactions := by
  cases h with
  | transactionAdded | transactionReplaced | groupIdle | groupAssigned => exact absurd rfl hc
  | _ => rfl

end Database
end LedgerRules
