/-
# Grouped writes to either store

A grouped write gives a category, a merchant or both to the transactions of a
user that are listed.  A store of records goes through all of its transactions.
A database is sent a statement, and only if something is listed and a target is
given.

Both find the same rows, whatever the tables hold and whatever is listed:
identifiers that are unknown, belong to another user or stand in the list twice
(`Transaction.RowFor.reaches_eq`).  So they do the same where a target is given
(`grouped_writes_agree_iff`).  Without a target the database does nothing, and
the store of records counts and stamps what it finds: then they agree only if
there is nothing to find.
-/

import LedgerRules.Proofs.Store.Records
import LedgerRules.Proofs.Text.Digits
import LedgerRules.Store.Database.Basic

namespace LedgerRules

/-- The elements of a list that are marked, changed.  Marks say where a grouped
write changes something without saying how it found the place, so they can be
shared by two stores. -/
def changeMarked {α : Type} (change : α → α) (marks : List Bool) (l : List α) : List α :=
  List.zipWith (fun marked a => if marked then change a else a) marks l

section Marks

variable {α : Type} (change : α → α) {p : α → Bool} {l : List α}

/-- Marking by a test changes what passes the test. -/
theorem changeMarked_map :
    changeMarked change (l.map p) l = l.map fun a => if p a then change a else a := by
  induction l with
  | nil => rfl
  | cons a l ih => exact congrArg (_ :: ·) ih

/-- Where nothing passes the test nothing is changed. -/
theorem changeMarked_of_none (h : ∀ a ∈ l, p a = false) : changeMarked change (l.map p) l = l := by
  rw [changeMarked_map]
  refine (List.map_congr_left fun a ha => ?_).trans (List.map_id l)
  rw [h a ha]
  rfl

/-- As many marks are set as elements pass the test. -/
theorem count_map_true : (l.map p).count true = l.countP p := by
  rw [List.count, List.countP_map]
  exact List.countP_congr fun a _ => by simp

end Marks

/-- A row with what a grouped write makes of it: a target that is not given
keeps what stands in its column, as `persist_grouped_update` writes only the
columns it has values for. -/
def TransactionRow.assign (row : TransactionRow) (category : Option Int64)
    (merchant : Option String)
    (updatedAt : TimeCell) : TransactionRow :=
  { row with
    category := category.or row.category
    merchant := merchant.or row.merchant
    updatedAt }

/-- The row is about the transaction, as far as a grouped write looks at it: it
has its identifier and belongs to its user. -/
structure Transaction.RowFor (t : Transaction) (row : TransactionRow) : Prop where
  id : row.id = t.id.text
  user : row.user = t.user

namespace Database

variable {d : Database} {user : String} {category : Option Int64} {merchant : Option String}
  {ids : List Id} {now : Instant} {cell : TimeCell}

/-- Whether a statement finds a row: `WHERE user_id = ? AND transaction_id IN
(…)`. -/
def finds (user : String) (ids : List Id) (row : TransactionRow) : Bool :=
  row.user == user && ids.any fun id => row.id == id.text

/-- No statement is sent where there is nothing to write or nothing to write to;
the answer is 0 then, and the tables are as they were. -/
theorem assign_of_nothing (h : ids = [] ∨ category = none ∧ merchant = none) :
    d.assign user category merchant ids now = (.ok 0, d) := by
  unfold assign
  rcases h with rfl | ⟨rfl, rfl⟩
  · rfl
  · rw [Option.isNone_none, Option.isNone_none, Bool.and_self, Bool.or_true]
    rfl

/-- A statement that is sent writes to the rows that it finds, and counts them. -/
theorem assign_of_something (hids : ids ≠ [])
    (hgives : category.isSome = true ∨ merchant.isSome = true) (hcell : now.toCell? = some cell)
    (hopen : TableName.transactions ∉ d.closed) :
    d.assign user category merchant ids now =
      (.ok (d.transactions.countP (finds user ids)), { d with
        transactions := d.transactions.map fun row =>
          if finds user ids row then row.assign category merchant cell else row }) := by
  have hsomething : (ids.isEmpty || (category.isNone && merchant.isNone)) = false := by
    rw [Bool.or_eq_false_iff, List.isEmpty_eq_false_iff, Bool.and_eq_false_iff]
    refine ⟨hids, hgives.imp ?_ ?_⟩ <;> simp
  have hwritable : d.closed.contains .transactions = false := by
    rwa [← Bool.not_eq_true, List.contains_iff_mem]
  unfold assign
  rw [hsomething, hcell, hwritable]
  rfl

end Database

/-- **Both stores find the same transactions.** An identifier is its text, so
comparing one is comparing the other. -/
theorem Transaction.RowFor.reaches_eq {t : Transaction} {row : TransactionRow} (h : t.RowFor row)
    (user : String) (ids : List Id) :
    Memory.reaches user ids t = Database.finds user ids row := by
  have hany : ids.contains t.id = ids.any fun id => t.id.text == id.text := by
    simp only [Id.text_beq, List.contains_eq_any_beq]
  unfold Memory.reaches Database.finds
  rw [hany, h.id, h.user]

/-! ### Both writes side by side -/

/-- What the two stores make of a grouped write is the same: the same of their
transactions are written to, each gets the targets that are given and a time,
all others stay, and both answer how many were written to.  Nothing else
changes, but that a store of records puts attempts on record. -/
structure WrittenAlike (m : Memory) (d : Database) (category : Option Int64)
    (merchant : Option String) (marks : List Bool) (now : Instant) (cell : TimeCell)
    (r : Except Error Nat × Memory) (s : Except Error Nat × Database) : Prop where
  counted : r.1 = .ok (marks.count true)
  countedRows : s.1 = .ok (marks.count true)
  records : r.2 = { m with
    attempts := r.2.attempts
    transactions := changeMarked (·.assign category merchant now) marks m.transactions }
  rows : s.2 = { d with
    transactions := changeMarked (·.assign category merchant cell) marks d.transactions }

section SideBySide

variable {m : Memory} {d : Database} {user : String} {category : Option Int64}
  {merchant : Option String} {ids : List Id} {now later : Instant} {cell : TimeCell}

/-- The transactions that a store of records reaches are marked. -/
theorem Memory.assign_eq_changeMarked (hf : m.failing = []) :
    m.assign user category merchant ids now =
      (.ok ((m.transactions.map (reaches user ids)).count true), { m with
        attempts := m.attempts ++ [⟨category, merchant, ids, true⟩]
        transactions := changeMarked (·.assign category merchant now)
          (m.transactions.map (reaches user ids)) m.transactions }) := by
  have hnot : (category, merchant) ∉ m.failing := by
    rw [hf]
    exact List.not_mem_nil
  rw [assign_of_not_failing hnot, changeMarked_map, count_map_true]

/-- Where a target is given the database changes and counts the rows that it
finds, also if it is not asked because nothing is listed. -/
theorem Database.assign_eq_changeMarked (hgives : category.isSome = true ∨ merchant.isSome = true)
    (hcell : later.toCell? = some cell) (hopen : TableName.transactions ∉ d.closed) :
    d.assign user category merchant ids later =
      (.ok ((d.transactions.map (finds user ids)).count true), { d with
        transactions := changeMarked (·.assign category merchant cell)
          (d.transactions.map (finds user ids)) d.transactions }) := by
  by_cases hids : ids = []
  · have hnone : ∀ row ∈ d.transactions, finds user ids row = false := by
      intro row _
      rw [hids]
      exact Bool.and_false _
    rw [assign_of_nothing (.inl hids), changeMarked_of_none _ hnone, count_map_true,
      List.countP_eq_zero.2 fun row hrow => Bool.eq_false_iff.1 (hnone row hrow)]
  · rw [assign_of_something hids hgives hcell hopen, changeMarked_map, count_map_true]

/-- Corresponding rows are marked alike, so one list of marks stands for what
either store writes to. -/
theorem map_finds_eq (hrows : List.Forall₂ Transaction.RowFor m.transactions d.transactions)
    (user : String) (ids : List Id) :
    d.transactions.map (Database.finds user ids) = m.transactions.map (Memory.reaches user ids) :=
  map_eq_of_forall₂ (fun _ _ h => (h.reaches_eq user ids).symm) hrows

/-- No transaction is reached if and only if none of the user's has an
identifier that is listed. -/
theorem Memory.unreached_iff : (∀ t ∈ m.transactions, t.user = user → t.id ∉ ids) ↔
    ∀ t ∈ m.transactions, reaches user ids t = false := by
  refine forall₂_congr fun t _ => ?_
  rw [Bool.eq_false_iff, ne_eq, reaches_iff, not_and]

/-- **Where a target is given, both stores write alike.** What is left is the
call without a target, which the database answers without a statement. -/
theorem writtenAlike_of_target
    (hrows : List.Forall₂ Transaction.RowFor m.transactions d.transactions) (hf : m.failing = [])
    (hopen : TableName.transactions ∉ d.closed) (hcell : later.toCell? = some cell)
    (hgives : category.isSome = true ∨ merchant.isSome = true) :
    WrittenAlike m d category merchant (m.transactions.map (Memory.reaches user ids)) now cell
      (m.assign user category merchant ids now) (d.assign user category merchant ids later) := by
  rw [Memory.assign_eq_changeMarked hf, Database.assign_eq_changeMarked hgives hcell hopen,
    map_finds_eq hrows]
  exact ⟨rfl, rfl, rfl, rfl⟩

/-- Where nothing is found and no target is given, both stores stay as they are,
though only one of them looks at its table. -/
theorem writtenAlike_of_unreached
    (hrows : List.Forall₂ Transaction.RowFor m.transactions d.transactions) (hf : m.failing = [])
    (hnone : ∀ t ∈ m.transactions, Memory.reaches user ids t = false) :
    WrittenAlike m d none none (m.transactions.map (Memory.reaches user ids)) now cell
      (m.assign user none none ids now) (d.assign user none none ids later) := by
  have hnoneRows : ∀ row ∈ d.transactions, Database.finds user ids row = false :=
    forall_of_forall₂ (fun t row h hr => (h.reaches_eq user ids).symm.trans hr) hrows hnone
  rw [Memory.assign_eq_changeMarked hf, Database.assign_of_nothing (.inr ⟨rfl, rfl⟩)]
  refine ⟨rfl, ?_, rfl, ?_⟩
  · rw [count_map_true, List.countP_eq_zero.2 fun t ht => Bool.eq_false_iff.1 (hnone t ht)]
  · rw [← map_finds_eq hrows, changeMarked_of_none _ hnoneRows]

end SideBySide

/-- **The two stores agree on a grouped write if and only if a target is given
or nothing is found.** Their tables may hold anything, as long as corresponding
rows have the same identifier and user, and any identifiers may be listed; no
write is made to fail, and the time of the clock fits a cell.  Without a target
the database leaves all rows alone and answers that it changed none, while the
store of records counts every transaction that it finds and sets its time. -/
theorem grouped_writes_agree_iff {m : Memory} {d : Database}
    (hrows : List.Forall₂ Transaction.RowFor m.transactions d.transactions) (hf : m.failing = [])
    (hopen : TableName.transactions ∉ d.closed) (user : String) (category : Option Int64)
    (merchant : Option String) (ids : List Id) (now : Instant) {later : Instant} {cell : TimeCell}
    (hcell : later.toCell? = some cell) :
    (WrittenAlike m d category merchant (m.transactions.map (Memory.reaches user ids)) now cell
        (m.assign user category merchant ids now) (d.assign user category merchant ids later) ↔
      category.isSome = true ∨ merchant.isSome = true ∨
        ∀ t ∈ m.transactions, t.user = user → t.id ∉ ids) ∧
    (category = none → merchant = none →
      d.assign user category merchant ids later = (.ok 0, d) ∧
      (m.assign user category merchant ids now).1 =
        .ok (m.transactions.countP (Memory.reaches user ids)) ∧
      (m.assign user category merchant ids now).2.transactions =
        m.transactions.map fun t =>
          if Memory.reaches user ids t then { t with updatedAt := now } else t) := by
  by_cases hgives : category.isSome = true ∨ merchant.isSome = true
  · refine ⟨iff_of_true (writtenAlike_of_target hrows hf hopen hcell hgives) ?_, ?_⟩
    · exact hgives.imp_right .inl
    · rintro rfl rfl
      rcases hgives with hgives | hgives <;> cases hgives
  · rw [not_or, Option.not_isSome_iff_eq_none, Option.not_isSome_iff_eq_none] at hgives
    obtain ⟨rfl, rfl⟩ := hgives
    have hnothing : d.assign user none none ids later = (.ok 0, d) :=
      Database.assign_of_nothing (.inr ⟨rfl, rfl⟩)
    refine ⟨⟨fun h => .inr (.inr ?_), fun h => ?_⟩, fun _ _ => ⟨hnothing, ?_, ?_⟩⟩
    · -- The database answers zero, so nothing may be marked.
      have hzero := h.countedRows
      rw [hnothing, count_map_true] at hzero
      refine Memory.unreached_iff.2 fun t ht => Bool.eq_false_iff.2 ?_
      exact List.countP_eq_zero.1 (Except.ok.inj hzero).symm t ht
    · rcases h with h | h | h
      · cases h
      · cases h
      · exact writtenAlike_of_unreached hrows hf (Memory.unreached_iff.1 h)
    · rw [Memory.assign_eq_changeMarked hf, count_map_true]
    · rw [Memory.assign_eq_changeMarked hf, changeMarked_map]
      rfl

namespace Sample

/-- A purchase in a store of records. -/
def bun : Transaction :=
  { id := ⟨5#128⟩, user := "ana", account := ⟨0#128⟩, amount := .zero, date := ⟨0⟩
    createdAt := ⟨0, 0⟩, updatedAt := ⟨0, 0⟩ }

/-- Its row. -/
def bunRow : TransactionRow :=
  { id := bun.id.text, user := "ana", account := bun.account.text, cents := 0, direction := none
    description := none, merchant := none, currency := none, category := none
    categoryManual := false, merchantManual := false, date := .finite ⟨0⟩, createdAt := .finite 0
    updatedAt := .finite 0 }

end Sample

/-- A grouped write of nothing to one purchase: the store of records counts it,
the database does not. -/
theorem bun_is_counted_by_one_store :
    List.Forall₂ Transaction.RowFor [Sample.bun] [Sample.bunRow] ∧
      Instant.toCell? ⟨7, 0⟩ = some (.finite 7000000) ∧
      ¬WrittenAlike { transactions := [Sample.bun] } { transactions := [Sample.bunRow] } none none
        ([Sample.bun].map (Memory.reaches "ana" [Sample.bun.id])) ⟨7, 0⟩ (.finite 7000000)
        (Memory.assign { transactions := [Sample.bun] } "ana" none none [Sample.bun.id] ⟨7, 0⟩)
        (Database.assign { transactions := [Sample.bunRow] } "ana" none none [Sample.bun.id]
          ⟨7, 0⟩) := by
  have hrows : List.Forall₂ Transaction.RowFor [Sample.bun] [Sample.bunRow] :=
    .cons ⟨rfl, rfl⟩ .nil
  have hcell : Instant.toCell? ⟨7, 0⟩ = some (.finite 7000000) := by decide
  obtain ⟨hiff, -⟩ := grouped_writes_agree_iff (m := { transactions := [Sample.bun] })
    (d := { transactions := [Sample.bunRow] }) hrows rfl List.not_mem_nil "ana" none none
    [Sample.bun.id] ⟨7, 0⟩ hcell
  refine ⟨hrows, hcell, fun h => ?_⟩
  rcases hiff.1 h with h | h | h
  · cases h
  · cases h
  · exact h _ List.mem_cons_self rfl List.mem_cons_self

end LedgerRules
