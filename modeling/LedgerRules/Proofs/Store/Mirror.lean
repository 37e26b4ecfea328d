/-
# A store of records in a store of rows

A database mirrors a store of records if its tables hold the rows of the
records, in their order (`Memory.Mirrors`).  When transactions were changed last
may be told apart by the two, as far as `close` allows; everything else agrees
by value.

Each call then gets the same answer from both, by value, and the stores stay
mirrors.  The calls that write are looked at where they succeed: a record that
is inserted has a new identifier, and one that is put back has been read.

A database leaves the order of level rows open, so lists of transactions and of
rules come out like those of the records where no two records were created at
the same time (`Memory.Staggered`), and lists of accounts but for those of equal
names (`Mirrors.listAccounts`).  The list of what a bulk run looks at comes in
another order altogether (`Mirrors.eligible`).
-/

import LedgerRules.Proofs.Store.Creations
import LedgerRules.Proofs.Store.Credits
import LedgerRules.Proofs.Store.GroupedWrites
import LedgerRules.Proofs.Store.Rows
import LedgerRules.Proofs.Store.Sorting
import LedgerRules.Store.Database.Basic

namespace LedgerRules

/-! ### Records and their rows -/

/-- The row is that of the account, whose times fit their cells.  So it reads
back as the account. -/
structure Account.Stored (a : Account) (row : AccountRow) : Prop where
  fits : a.FitsCells
  row_eq : row = .of a

/-- The row is that of the transaction, but for when it was changed last.  The
two stores read the clock on their own for a grouped write, so that time is only
as `close` says. -/
def Transaction.Stored (close : Instant → Instant → Prop) (t : Transaction) (row : TransactionRow) :
    Prop :=
  ∃ updatedAt : Instant, close t.updatedAt updatedAt ∧ { t with updatedAt }.FitsCells ∧
    row = .of { t with updatedAt }

/-- The row is that of the rule, whose times and body fit their cells.  It reads
back as a rule with a body of equal value. -/
structure Rule.Stored (r : Rule) (row : RuleRow) : Prop where
  fits : r.FitsCells
  row_eq : row = .of r

variable {close : Instant → Instant → Prop}

/-- The row of an account is read back as the account, so the two stores answer
the same. -/
theorem Account.Stored.read {a : Account} {row : AccountRow} (h : a.Stored row) :
    row.toRecord = .ok a := by
  rw [h.row_eq]
  exact h.fits.toRecord

/-- The row of a transaction is read back as the transaction by value: the
amount comes with two places, whatever places it had. -/
theorem Transaction.Stored.read {t : Transaction} {row : TransactionRow} (h : t.Stored close row) :
    ∃ t', row.toRecord = .ok t' ∧ t.SameValue close t' := by
  obtain ⟨updatedAt, hclose, hfits, rfl⟩ := h
  exact ⟨_, hfits.toRecord, hfits.amount.value_ofCents, hclose, rfl⟩

/-- A grouped write sees the same in the row as in the transaction. -/
theorem Transaction.Stored.rowFor {t : Transaction} {row : TransactionRow}
    (h : t.Stored close row) : t.RowFor row := by
  obtain ⟨updatedAt, -, -, rfl⟩ := h
  exact ⟨rfl, rfl⟩

/-- The row of a rule is read back as the rule, with the numbers of its body
compared by value. -/
theorem Rule.Stored.read {r : Rule} {row : RuleRow} (h : r.Stored row) :
    ∃ r', row.toRecord = .ok r' ∧ r.SameValue r' := by
  rw [h.row_eq]
  exact h.fits.toRecord

/-- A row is found by the text of an identifier where the record is by the
identifier. -/
theorem Database.hits_text (user owner : String) (id other : Id) :
    hits user id other.text owner = (other == id && owner == user) := by
  unfold hits
  rw [Id.text_beq]

/-- A statement finds a row by the text of the identifier and by the user. -/
theorem Database.hits_iff {user : String} {id : Id} {rowId rowUser : String} :
    hits user id rowId rowUser = true ↔ rowId = id.text ∧ rowUser = user := by
  unfold hits
  rw [Bool.and_eq_true, beq_iff_eq, beq_iff_eq]

/-- No row has an identifier that no record has, so a key that is new among the
records is new among the rows and the insertion is not refused. -/
theorem any_row_eq_false {α β : Type} {stored : α → β → Prop} {key : α → Id} {rowId : β → String}
    {records : List α} {rows : List β} (h : List.Forall₂ stored records rows)
    (hkey : ∀ a row, stored a row → rowId row = (key a).text) {id : Id}
    (hnew : ∀ a ∈ records, key a ≠ id) : rows.any (rowId · == id.text) = false := by
  rw [← any_of_forall₂ (p := (key · == id)) (fun a row ha => ?_) h]
  · rw [Bool.eq_false_iff, ne_eq, List.any_eq_true]
    rintro ⟨a, ha, he⟩
    exact hnew a ha (beq_iff_eq.1 he)
  · rw [hkey a row ha]
    exact (Id.text_beq _ _).symm

/-- What a search finds among the records, it finds among the rows. -/
theorem exists_of_rel_some {α β : Type} {stored : α → β → Prop} {a : α} {found : Option β}
    (h : Option.Rel stored (some a) found) : ∃ b, found = some b := by
  cases h with
  | some _ => exact ⟨_, rfl⟩

/-- A record is changed together with its row, if no other record is found by
the same key.  The store of records changes the first that it finds, the
statement every row that it finds; where keys are distinct that is the same. -/
theorem forall₂_modifyFirst_map {α β κ : Type} {stored : α → β → Prop} {test : α → Bool}
    {hit : β → Bool} {change : α → α} {change' : β → β} {key : α → κ} {k : κ}
    (hkey : ∀ a, test a = true → key a = k) (hhit : ∀ a b, stored a b → hit b = test a)
    {records : List α} {rows : List β} (h : List.Forall₂ stored records rows)
    (hd : (records.map key).Nodup)
    (hchange : ∀ a ∈ records, ∀ b, test a = true → stored a b → stored (change a) (change' b)) :
    List.Forall₂ stored (modifyFirst test change records)
      (rows.map fun b => if hit b then change' b else b) := by
  have hall := (List.forall₂_and_left _ _).2 ⟨fun _ ha => ha, h⟩
  rw [modifyFirst_eq_map _ hkey hd]
  refine List.forall₂_map_left_iff.2 (List.forall₂_map_right_iff.2 (hall.imp fun a b hab => ?_))
  obtain ⟨hmem, hstored⟩ := hab
  rw [hhit a b hstored]
  by_cases ha : test a = true
  · rw [if_pos ha, if_pos ha]
    exact hchange a hmem b ha hstored
  · rwa [if_neg ha, if_neg ha]

/-- The database holds the rows of the records, and no write is made to fail.
This is the relation that runs of one operation on both stores preserve. -/
structure Memory.Mirrors (close : Instant → Instant → Prop) (m : Memory) (d : Database) : Prop where
  accounts : List.Forall₂ Account.Stored m.accounts d.accounts
  transactions : List.Forall₂ (Transaction.Stored close) m.transactions d.transactions
  rules : List.Forall₂ Rule.Stored m.rules d.rules
  failing : m.failing = []
  closed : d.closed = []

namespace Memory.Mirrors

variable {m : Memory} {d : Database} {user : String} {id : Id}

/-! ### Accounts -/

/-- Searches for an account find in both stores, or in neither. -/
theorem accountRow? (h : m.Mirrors close d) (user : String) (id : Id) :
    Option.Rel Account.Stored (m.account? user id) (d.accountRow? user id) := by
  refine find?_of_forall₂ (fun a row ha => ?_) h.accounts
  rw [ha.row_eq]
  exact (Database.hits_text ..).symm

/-- An account that is read is the stored one, with nothing lost. -/
theorem getAccount (h : m.Mirrors close d) (user : String) (id : Id) :
    Database.readOne (d.accountRow? user id) AccountRow.toRecord = .ok (m.account? user id) := by
  have hrow := h.accountRow? user id
  generalize m.account? user id = found at hrow ⊢
  generalize d.accountRow? user id = row at hrow ⊢
  cases hrow with
  | none => rfl
  | some ha =>
    unfold Database.readOne
    dsimp only
    rw [ha.read]
    rfl

/-- What rules see of an account is the same in both stores. -/
theorem accountView (h : m.Mirrors close d) (user : String) (id : Id) :
    (d.accountRow? user id).map AccountRow.view = (m.account? user id).map Account.view := by
  have hrow := h.accountRow? user id
  generalize m.account? user id = found at hrow ⊢
  generalize d.accountRow? user id = row at hrow ⊢
  cases hrow with
  | none => rfl
  | some ha =>
    rw [ha.row_eq]
    rfl

/-- **Accounts are listed alike** but for the order of those of equal names,
which `ORDER BY name` leaves open. -/
theorem listAccounts (h : m.Mirrors close d) (user : String) :
    ∃ found, d.listAccounts user = .ok found ∧ Account.SameListing
      ((m.accounts.filter (·.user == user)).mergeSort Account.precedes) found := by
  have hfound : List.Forall₂ Account.Stored (m.accounts.filter (·.user == user))
      (d.accounts.filter (·.user == user)) :=
    filter_of_forall₂ (fun a row ha => by rw [ha.row_eq]; rfl) h.accounts
  obtain ⟨arranged, hperm, hsorted⟩ :=
    (d.ties.accounts (.listAccounts user)).exists_sort_of_forall₂
      (fun a row b row' (ha : a.Stored row) (hb : b.Stored row') =>
        show Account.precedes a b = AccountRow.precedes row row' by rw [ha.row_eq, hb.row_eq]; rfl)
      hfound
  obtain ⟨read, hread, heq⟩ := mapM_of_forall₂ (S := Eq) (fun a row ha => ⟨a, ha.read, rfl⟩) hsorted
  rw [List.forall₂_eq_eq_eq] at heq
  refine ⟨read, hread, ?_⟩
  rw [← heq]
  exact Account.sameListing_of_perm hperm

/-- An account with a new identifier is added to both, behind the ones that are
there. -/
theorem insertAccount (h : m.Mirrors close d) {a : Account} (ha : a.FitsCells)
    (hnew : ∀ x ∈ m.accounts, x.id ≠ a.id) : ∃ d', d.insertAccount a = (.ok (), d') ∧
      Mirrors close { m with accounts := m.accounts ++ [a] } d' := by
  have hany : d.accounts.any (·.id == (AccountRow.of a).id) = false :=
    any_row_eq_false h.accounts (fun x row hx => by rw [hx.row_eq]; rfl) hnew
  refine ⟨{ d with accounts := d.accounts ++ [.of a] }, ?_, ?_⟩
  · unfold Database.insertAccount
    rw [ha.ofRecord?]
    dsimp only
    rw [h.closed, hany]
    rfl
  · exact ⟨List.rel_append h.accounts (.cons ⟨ha, rfl⟩ .nil), h.transactions, h.rules, h.failing,
      h.closed⟩

/-! ### Reading transactions -/

/-- Searches for a transaction find in both stores, or in neither. -/
theorem transactionRow? (h : m.Mirrors close d) (user : String) (id : Id) :
    Option.Rel (Transaction.Stored close) (m.transaction? user id) (d.transactionRow? user id) := by
  refine find?_of_forall₂ (fun t row ht => ?_) h.transactions
  obtain ⟨_, -, -, rfl⟩ := ht
  exact (Database.hits_text ..).symm

/-- A transaction that is read is the stored one by value. -/
theorem getTransaction (h : m.Mirrors close d) (user : String) (id : Id) :
    ∃ found, Database.readOne (d.transactionRow? user id) TransactionRow.toRecord = .ok found ∧
      Option.Rel (Transaction.SameValue close) (m.transaction? user id) found := by
  have hrow := h.transactionRow? user id
  generalize m.transaction? user id = found at hrow ⊢
  generalize d.transactionRow? user id = row at hrow ⊢
  cases hrow with
  | none => exact ⟨none, rfl, .none⟩
  | some ht =>
    obtain ⟨t', hread, hsame⟩ := ht.read
    refine ⟨some t', ?_, .some hsame⟩
    unfold Database.readOne
    dsimp only
    rw [hread]
    rfl

/-- What is stored fits its cells, but for when it was changed last: that time
was written by the other store's clock. -/
theorem fits_of_transaction? (h : m.Mirrors close d) {t : Transaction}
    (ht : m.transaction? user id = some t) : ∃ updatedAt, { t with updatedAt }.FitsCells := by
  obtain ⟨_, -, updatedAt, -, hfits, -⟩ :=
    exists_of_forall₂ h.transactions t (transaction?_mem ht).1
  exact ⟨updatedAt, hfits⟩

/-- Rows and transactions are listed in the same order, because their days and
their times of creation are the same. -/
theorem newerFirst_eq {s t : Transaction} {row row' : TransactionRow} (hs : s.Stored close row)
    (ht : t.Stored close row') : s.precedes t = row.newerFirst row' := by
  obtain ⟨_, -, hsfits, rfl⟩ := hs
  obtain ⟨_, -, htfits, rfl⟩ := ht
  have hlater : decide (t.date.day < s.date.day) = (Extended.finite t.date != .finite s.date &&
      DateCell.atMost (.finite t.date) (.finite s.date)) := by
    have hle : DateCell.atMost (.finite t.date) (.finite s.date) =
        decide (t.date.day ≤ s.date.day) := rfl
    have hday : t.date = s.date ↔ t.date.day = s.date.day :=
      by rw [← Date.mk.injEq]
    rw [hle, Bool.eq_iff_iff, Bool.and_eq_true, bne_iff_ne, decide_eq_true_iff, decide_eq_true_iff,
      ne_eq, Extended.finite.injEq, hday]
    omega
  have hsame : (s.date == t.date) = (Extended.finite s.date == .finite t.date) := by
    rw [Bool.eq_iff_iff, beq_iff_eq, beq_iff_eq, Extended.finite.injEq]
  unfold Transaction.precedes TransactionRow.newerFirst TransactionRow.of
  rw [htfits.createdAt.atMost_eq hsfits.createdAt, hlater, hsame]

/-- **Transactions are listed alike**, and so is any number of the newest, where
no two were created at the same time.  Without that a limit could cut between
two rows that are level, and the order of those is open. -/
theorem listTransactions (h : m.Mirrors close d) (hd : m.Staggered) (user : String)
    (account : Option Id) {limit : Option Nat} (hlimit : ∀ n ∈ limit, Number.fitsSigned n = true) :
    ∃ found, d.listTransactions user account limit = .ok found ∧
      List.Forall₂ (Transaction.SameValue close) (m.transactionsOf user account limit) found := by
  have hfound : List.Forall₂ (Transaction.Stored close)
      (m.transactions.filter fun t => t.user == user && account.all (t.account == ·))
      (d.transactions.filter fun r => r.user == user && account.all (r.account == ·.text)) := by
    refine filter_of_forall₂ (fun t row ht => ?_) h.transactions
    have haccount : account.all (t.account == ·) = account.all (t.account.text == ·.text) := by
      cases account with
      | none => rw [Option.all_none, Option.all_none]
      | some account => rw [Option.all_some, Option.all_some, Id.text_beq]
    obtain ⟨_, -, -, rfl⟩ := ht
    rw [haccount]
    rfl
  have hsorted := (d.ties.transactions (.listTransactions user account limit)).sort_of_forall₂
    (R := Transaction.Stored close) Transaction.precedes_trans Transaction.precedes_total
    (fun _ _ _ _ hs ht => newerFirst_eq hs ht) hfound fun s hs t ht hst hts =>
      hd.transaction_eq (List.mem_of_mem_filter hs) (List.mem_of_mem_filter ht)
        (Transaction.createdAt_eq_of_level hst hts)
  have hread : ∀ t row, Transaction.Stored close t row →
      ∃ t', row.toRecord = .ok t' ∧ t.SameValue close t' := fun _ _ ht => ht.read
  unfold Database.listTransactions transactionsOf
  dsimp only
  generalize List.mergeSort _ Transaction.precedes = sorted at hsorted ⊢
  generalize Arrangement.sort _ TransactionRow.newerFirst _ = rows at hsorted ⊢
  cases limit with
  | none => exact mapM_of_forall₂ hread hsorted
  | some n =>
    dsimp only
    rw [if_pos (hlimit n rfl)]
    exact mapM_of_forall₂ hread (List.forall₂_take n hsorted)

/-- **What a bulk run looks at** is the same by value, in another order: its
statement has no `ORDER BY`, and nothing that a run does depends on the order. -/
theorem eligible (h : m.Mirrors close d) (user : String) (ids : Option (List Id))
    (includeManual : Bool) : ∃ ordered found, d.eligible user ids includeManual = .ok found ∧
      ordered.Perm (m.eligibleOf user ids includeManual) ∧
      List.Forall₂ (Transaction.SameValue close) ordered found := by
  obtain ⟨rows, hrows⟩ : ∃ rows, d.transactions.filter (fun r =>
    r.user == user && (includeManual || !r.fullyManual) &&
      ids.all (·.any fun id => r.id == id.text)) = rows := ⟨_, rfl⟩
  have hfound :
      List.Forall₂ (Transaction.Stored close) (m.eligibleOf user ids includeManual) rows := by
    rw [← hrows]
    refine filter_of_forall₂ (fun t row ht => ?_) h.transactions
    obtain ⟨_, -, -, rfl⟩ := ht
    have hids : ids.all (·.contains t.id) = ids.all (·.any fun id => t.id.text == id.text) := by
      cases ids with
      | none => rfl
      | some ids => simp only [Option.all_some, Id.text_beq, List.contains_eq_any_beq]
    simp only [hids]
    rfl
  obtain ⟨ordered, hordered, hperm⟩ :=
    List.perm_comp_forall₂ (List.mergeSort_perm rows TransactionRow.olderFirst) hfound.flip
  obtain ⟨found, hread, hsame⟩ :=
    mapM_of_forall₂ (fun _ _ ht => Transaction.Stored.read ht) hordered.flip
  refine ⟨ordered, found, ?_, hperm, hsame⟩
  unfold Database.eligible
  rw [hrows]
  exact hread

/-! ### Writing transactions -/

/-- A transaction with a new identifier is added to both. -/
theorem insertTransaction (h : m.Mirrors close d) (hrefl : ∀ t, close t t) {t : Transaction}
    (ht : t.FitsCells) (hnew : ∀ x ∈ m.transactions, x.id ≠ t.id) :
    ∃ d', d.insertTransaction t = (.ok (), d') ∧
      Mirrors close { m with transactions := m.transactions ++ [t] } d' := by
  have hany : d.transactions.any (·.id == (TransactionRow.of t).id) = false := by
    refine any_row_eq_false h.transactions (fun x row hx => ?_) hnew
    obtain ⟨_, -, -, rfl⟩ := hx
    rfl
  refine ⟨{ d with transactions := d.transactions ++ [.of t] }, ?_, ?_⟩
  · unfold Database.insertTransaction
    rw [ht.ofRecord?]
    dsimp only
    rw [h.closed, hany]
    rfl
  · have hstored : t.Stored close (.of t) := ⟨t.updatedAt, hrefl _, ht, rfl⟩
    exact ⟨h.accounts, List.rel_append h.transactions (.cons hstored .nil), h.rules, h.failing,
      h.closed⟩

/-- A transaction that was read is put back: both stores have found it, and the
times of creation are as they were. -/
theorem updateTransaction (h : m.Mirrors close d) (hrefl : ∀ t, close t t) (hd : m.Distinct)
    {old t t' : Transaction} (hold : m.transaction? t.user t.id = some old) (ht : t.FitsCells)
    (hcreated : t.createdAt = old.createdAt) (hsame : t.SameValue Eq t') :
    ∃ d', d.updateTransaction t' = (.ok (), d') ∧
      Mirrors close { m with
        transactions := modifyFirst (fun x => x.id == t.id && x.user == t.user) (fun _ => t)
          m.transactions } d' := by
  have hother : t' = { t with amount := t'.amount } := by rw [hsame.others, ← hsame.updatedAt]
  have hrow : TransactionRow.of { t' with createdAt := t'.updatedAt } =
      .of { t with createdAt := t.updatedAt } := by
    rw [hother]
    unfold TransactionRow.of
    dsimp only
    rw [ht.amount.toCents_congr hsame.amount]
  have hof : TransactionRow.ofRecord? { t' with createdAt := t'.updatedAt } =
      some (.of { t with createdAt := t.updatedAt }) := by
    have hfits : Transaction.FitsCells { t' with createdAt := t'.updatedAt } := by
      rw [hother]
      exact ⟨ht.amount.congr hsame.amount, ht.date, ht.updatedAt, ht.updatedAt⟩
    rw [hfits.ofRecord?, hrow]
  obtain ⟨row, hfound⟩ := exists_of_rel_some (hold ▸ h.transactionRow? t.user t.id)
  obtain ⟨holdMem, holdId, -⟩ := transaction?_mem hold
  refine ⟨{ d with transactions := d.transactions.map fun r =>
    if Database.hits t.user t.id r.id r.user
    then { TransactionRow.of t with createdAt := r.createdAt } else r }, ?_, ?_⟩
  · have hids : t'.user = t.user ∧ t'.id = t.id := by
      rw [hother]
      exact ⟨rfl, rfl⟩
    unfold Database.updateTransaction
    rw [hof, hids.1, hids.2, hfound, h.closed]
    rfl
  · refine ⟨h.accounts, ?_, h.rules, h.failing, h.closed⟩
    refine forall₂_modifyFirst_map (fun x hx => (Id.found_iff.1 hx).1) (fun x row hstored => ?_)
      h.transactions hd fun x hmem row hx hstored => ?_
    · obtain ⟨_, -, -, rfl⟩ := hstored
      exact Database.hits_text ..
    · obtain rfl := hd.eq_of_id hmem holdMem ((Id.found_iff.1 hx).1.trans holdId.symm)
      obtain ⟨_, -, -, rfl⟩ := hstored
      refine ⟨t.updatedAt, hrefl _, ht, ?_⟩
      unfold TransactionRow.of
      rw [hcreated]

/-- A grouped write that gives something goes through in both and reaches as
many.  Where nothing is given or listed the two stores differ
(`grouped_writes_agree_iff`), but no operation asks for that. -/
theorem assign (h : m.Mirrors close d) (hrefl : ∀ t, close t t) {category : Option Int64}
    {merchant : Option String} {ids : List Id} {now : Instant} (hnow : now.FitsCell)
    (hgives : category.isSome = true ∨ merchant.isSome = true) (hids : ids ≠ []) :
    ∃ d', d.assign user category merchant ids now =
        (.ok (m.transactions.countP (reaches user ids)), d') ∧
      (m.assign user category merchant ids now).1 =
        .ok (m.transactions.countP (reaches user ids)) ∧
      (m.assign user category merchant ids now).2.Mirrors close d' := by
  have hfinds : ∀ t row, Transaction.Stored close t row →
      reaches user ids t = Database.finds user ids row := fun t row ht =>
    ht.rowFor.reaches_eq user ids
  have hnot : (category, merchant) ∉ m.failing := by
    rw [h.failing]
    exact List.not_mem_nil
  have hopen : TableName.transactions ∉ d.closed := by
    rw [h.closed]
    exact List.not_mem_nil
  rw [assign_of_not_failing hnot, countP_of_forall₂ hfinds h.transactions]
  refine ⟨_, Database.assign_of_something hids hgives hnow.toCell? hopen, rfl, ?_⟩
  refine ⟨h.accounts, ?_, h.rules, h.failing, h.closed⟩
  refine List.forall₂_map_left_iff.2 (List.forall₂_map_right_iff.2
    (h.transactions.imp fun t row ht => ?_))
  rw [hfinds t row ht]
  split
  · obtain ⟨_, -, hfits, rfl⟩ := ht
    exact ⟨now, hrefl _, ⟨hfits.amount, hfits.date, hfits.createdAt, hnow⟩, rfl⟩
  · exact ht

/-! ### Reading rules -/

/-- Searches for a rule find in both stores, or in neither. -/
theorem ruleRow? (h : m.Mirrors close d) (user : String) (id : Id) :
    Option.Rel Rule.Stored (m.rule? user id) (d.ruleRow? user id) := by
  refine find?_of_forall₂ (fun r row hr => ?_) h.rules
  rw [hr.row_eq]
  exact (Database.hits_text ..).symm

/-- The rules that are stored fit their cells. -/
theorem fits_of_rule? (h : m.Mirrors close d) {r : Rule} (hr : m.rule? user id = some r) :
    r.FitsCells := by
  obtain ⟨_, -, hstored⟩ := exists_of_forall₂ h.rules r (rule?_mem hr).1
  exact hstored.fits

/-- A rule that is read is the stored one by value. -/
theorem getRule (h : m.Mirrors close d) (user : String) (id : Id) :
    ∃ found, Database.readOne (d.ruleRow? user id) RuleRow.toRecord = .ok found ∧
      Option.Rel Rule.SameValue (m.rule? user id) found := by
  have hrow := h.ruleRow? user id
  generalize m.rule? user id = found at hrow ⊢
  generalize d.ruleRow? user id = row at hrow ⊢
  cases hrow with
  | none => exact ⟨none, rfl, .none⟩
  | some hr =>
    obtain ⟨r', hread, hsame⟩ := hr.read
    refine ⟨some r', ?_, .some hsame⟩
    unfold Database.readOne
    dsimp only
    rw [hread]
    rfl

/-- Every row of a rule can be read, so none is skipped; and the rules come in
their order, where no two of them were created at the same time. -/
theorem listing (hd : m.Staggered) {rules : List Rule} (hrules : rules.Sublist m.rules)
    {rows : List RuleRow} (ties : Arrangement RuleRow) (h : List.Forall₂ Rule.Stored rules rows) :
    ∃ found, Database.listing ties rows = ⟨found, []⟩ ∧
      List.Forall₂ Rule.SameValue (rules.mergeSort Rule.precedes) found := by
  have hle : ∀ r row s row', Rule.Stored r row → Rule.Stored s row' →
      Rule.precedes r s = RuleRow.precedes row row' := by
    intro r row s row' hr hs
    rw [hr.row_eq, hs.row_eq]
    unfold Rule.precedes RuleRow.precedes RuleRow.of
    rw [hr.fits.createdAt.atMost_eq hs.fits.createdAt]
  have hsorted := ties.sort_of_forall₂ Rule.precedes_trans Rule.precedes_total hle h
    fun r hr s hs hrs hsr =>
      hd.rule_eq (hrules.subset hr) (hrules.subset hs) (Rule.createdAt_eq_of_level hrs hsr)
  unfold Database.listing
  dsimp only
  generalize List.mergeSort rules Rule.precedes = sorted at hsorted ⊢
  generalize Arrangement.sort ties RuleRow.precedes rows = rows at hsorted ⊢
  induction hsorted with
  | nil => exact ⟨[], rfl, .nil⟩
  | cons hr _ ih =>
    obtain ⟨r', hread, hsame⟩ := hr.read
    obtain ⟨found, hfound, hall⟩ := ih
    obtain ⟨hrules, hskipped⟩ := Listing.mk.inj hfound
    refine ⟨r' :: found, ?_, .cons hsame hall⟩
    rw [List.map_cons, hread, List.filterMap_cons, List.filterMap_cons, hrules, hskipped]
    rfl

/-- The rules of a user are listed alike, whatever order the rows are found in. -/
theorem listRules (h : m.Mirrors close d) (hd : m.Staggered) (user : String)
    (ties : Arrangement RuleRow) :
    ∃ found, Database.listing ties (d.rules.filter (·.user == user)) = ⟨found, []⟩ ∧
      List.Forall₂ Rule.SameValue (m.rulesOf user) found :=
  listing hd List.filter_sublist ties
    (filter_of_forall₂ (fun r row hr => by rw [hr.row_eq]; rfl) h.rules)

/-- So are those of them that are active. -/
theorem activeRules (h : m.Mirrors close d) (hd : m.Staggered) (user : String)
    (ties : Arrangement RuleRow) :
    ∃ found, Database.listing ties (d.rules.filter fun r => r.user == user && r.active) =
        ⟨found, []⟩ ∧
      List.Forall₂ Rule.SameValue (m.activeRulesOf user) found :=
  listing hd List.filter_sublist ties
    (filter_of_forall₂ (fun r row hr => by rw [hr.row_eq]; rfl) h.rules)

/-- The greatest priority of a user's rules is the same in both stores, or there
is none in either. -/
theorem maxPriority (h : m.Mirrors close d) (user : String) :
    Database.maxPriority (d.rules.filter (·.user == user)) =
      Memory.maxPriority (m.rules.filter (·.user == user)) := by
  have hfound : List.Forall₂ Rule.Stored (m.rules.filter (·.user == user))
      (d.rules.filter (·.user == user)) :=
    filter_of_forall₂ (fun r row hr => by rw [hr.row_eq]; rfl) h.rules
  unfold Database.maxPriority Memory.maxPriority
  generalize m.rules.filter (·.user == user) = rules at hfound ⊢
  generalize d.rules.filter (·.user == user) = rows at hfound ⊢
  generalize (none : Option Int32) = greatest
  induction hfound generalizing greatest with
  | nil => rfl
  | @cons r row _ _ hr _ ih =>
    have hpriority : row.priority = r.priority := by
      rw [hr.row_eq]
      rfl
    rw [List.foldl_cons, List.foldl_cons, hpriority]
    exact ih _

/-! ### Writing rules -/

/-- A rule with a new identifier is added to both. -/
theorem insertRule (h : m.Mirrors close d) {r : Rule} (hr : r.FitsCells)
    (hnew : ∀ x ∈ m.rules, x.id ≠ r.id) : ∃ d', d.insertRule r = (.ok (), d') ∧
      Mirrors close { m with rules := m.rules ++ [r] } d' := by
  have hany : d.rules.any (·.id == (RuleRow.of r).id) = false :=
    any_row_eq_false h.rules (fun x row hx => by rw [hx.row_eq]; rfl) hnew
  refine ⟨{ d with rules := d.rules ++ [.of r] }, ?_, ?_⟩
  · unfold Database.insertRule
    rw [hr.ofRecord?]
    dsimp only
    rw [h.closed, hany]
    rfl
  · exact ⟨h.accounts, h.transactions, List.rel_append h.rules (.cons ⟨hr, rfl⟩ .nil), h.failing,
      h.closed⟩

/-- A rule that was read is put back: both stores have found it, and how often
it was applied and when it was created is as it was. -/
theorem updateRule (h : m.Mirrors close d) (hd : m.DistinctRules) {old r r' : Rule}
    (hold : m.rule? r.user r.id = some old) (hr : r.FitsCells)
    (hcreated : r.createdAt = old.createdAt) (hsame : r.SameValue r') :
    ∃ d', d.updateRule r' = (.ok (), d') ∧
      Mirrors close { m with
        rules := modifyFirst (fun x => x.id == r.id && x.user == r.user) (·.replace r) m.rules }
        d' := by
  have hbody : r'.conditions.toJson.compact = r.conditions.toJson.compact := by
    rw [Conditions.toJson_congr hsame.conditions]
  obtain ⟨row, hfound⟩ := exists_of_rel_some (hold ▸ h.ruleRow? r.user r.id)
  obtain ⟨holdMem, holdId, -⟩ := rule?_mem hold
  refine ⟨{ d with rules := d.rules.map fun row =>
    if Database.hits r.user r.id row.id row.user then { row with
      name := r.name, conditions := r.conditions.toJson.compact
      category := r.category, merchant := r.merchant, active := r.active
      priority := r.priority, source := r.source.name, updatedAt := .finite r.updatedAt.micros }
    else row }, ?_, ?_⟩
  · rw [hsame.others]
    unfold Database.updateRule
    dsimp only
    rw [h.closed, hfound, hr.updatedAt.toCell?, hbody]
    rfl
  · refine ⟨h.accounts, h.transactions, ?_, h.failing, h.closed⟩
    refine forall₂_modifyFirst_map (fun x hx => (Id.found_iff.1 hx).1) (fun x row hstored => ?_)
      h.rules hd fun x hmem row hx hstored => ?_
    · rw [hstored.row_eq]
      exact Database.hits_text ..
    · obtain ⟨hfits, rfl⟩ := hstored
      obtain ⟨hid, huser⟩ := Id.found_iff.1 hx
      obtain rfl := List.inj_on_of_nodup_map hd hmem holdMem (hid.trans holdId.symm)
      refine ⟨⟨hr.conditions, hr.accepted, hfits.lastAppliedAt, hr.createdAt, hr.updatedAt⟩, ?_⟩
      unfold RuleRow.of Rule.replace
      rw [hid, huser, hcreated]

/-- Deleting a rule finds it in both or in neither. -/
theorem deleteRule (h : m.Mirrors close d) (user : String) (id : Id) :
    ∃ d', d.deleteRule user id = (.ok (m.rules.any fun r => r.id == id && r.user == user), d') ∧
      Mirrors close { m with rules := m.rules.filter fun r => !(r.id == id && r.user == user) }
        d' := by
  have hhits : ∀ r row, Rule.Stored r row →
      (r.id == id && r.user == user) = Database.hits user id row.id row.user := by
    intro r row hr
    rw [hr.row_eq]
    exact (Database.hits_text ..).symm
  refine ⟨{ d with rules := d.rules.filter fun row => !Database.hits user id row.id row.user },
    ?_, ?_⟩
  · unfold Database.deleteRule
    rw [h.closed, any_of_forall₂ hhits h.rules]
    rfl
  · exact ⟨h.accounts, h.transactions,
      filter_of_forall₂ (fun r row hr => congrArg (!·) (hhits r row hr)) h.rules, h.failing,
      h.closed⟩

/-- Applications are counted in both; with none to count neither writes
anything. -/
theorem recordApplications (h : m.Mirrors close d) (hd : m.DistinctRules) (id : Id) (times : Nat)
    {now : Instant} (hnow : now.FitsCell) : ∃ d', d.recordApplications id times now = (.ok (), d') ∧
      (m.count id times now).Mirrors close d' := by
  unfold Database.recordApplications count
  by_cases hzero : times = 0
  · rw [if_pos hzero, if_pos hzero]
    exact ⟨d, rfl, h⟩
  rw [if_neg hzero, if_neg hzero, hnow.toCell?, h.closed]
  refine ⟨_, rfl, h.accounts, h.transactions, ?_, h.failing, rfl⟩
  refine forall₂_modifyFirst_map (fun r hr => beq_iff_eq.1 hr) (fun r row hr => ?_) h.rules hd
    fun r _ row _ hr => ?_
  · rw [hr.row_eq]
    exact Id.text_beq r.id id
  · obtain ⟨hfits, rfl⟩ := hr
    refine ⟨⟨hfits.conditions, hfits.accepted, ?_, hfits.createdAt, hfits.updatedAt⟩, rfl⟩
    rintro t ⟨⟩
    exact hnow

end Memory.Mirrors
end LedgerRules
