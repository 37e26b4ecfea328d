/-
# What a store of rows gives back

A transaction that was stored is read back with every field it was stored with,
save that its amount is rounded to hundredths and its times are cut to
microseconds, which is what cells hold.  What is read is the transaction as the
cells keep it (`Transaction.kept`), and that one fits its cells, so it is read
as it is.

When a transaction is written over, the time at which it was first created
stays: no call changes that cell of a row, and none takes a row of the table out
(`Database.Wrote.createdAt`).  So it is read back, whatever was written in
between.
-/

import LedgerRules.Proofs.Store.Mirror
import LedgerRules.Proofs.Store.Writes

namespace LedgerRules

open Decimal (roundAway centsLimit)

/-! ### What cells keep -/

/-- A transaction as it is read back: the amount is rounded to hundredths, and
stays as it is if it is a whole number of them; the times are cut to
microseconds, and the one of creation is the one of the first that was stored. -/
structure Transaction.ComesBackAs (t : Transaction) (created : Instant) (t' : Transaction) :
    Prop where
  amount : t'.amount.value = roundAway (100 * t.amount.value) / 100
  hundredths : ∀ cents : ℤ, t.amount.value = cents / 100 → t'.amount.value = t.amount.value
  others : t' = { t with
    amount := t'.amount, createdAt := created.cut, updatedAt := t.updatedAt.cut }

namespace Transaction

variable {t : Transaction} {created : Instant}

/-- What cells keep of a transaction that was created at a time: hundredths of
the amount, and microseconds of the times. -/
def kept (t : Transaction) (created : Instant) : Transaction :=
  { t with
    amount := .ofCents t.amount.toCents, createdAt := created.cut, updatedAt := t.updatedAt.cut }

/-- What cells keep comes back as `ComesBackAs` says, as long as the amount has
room in its column. -/
theorem comesBackAs_kept (hroom : t.amount.toCents.natAbs < centsLimit) :
    t.ComesBackAs created (t.kept created) where
  amount := by
    rw [← Decimal.toCents_eq_roundAway]
    exact Decimal.value_ofCents_of_lt hroom
  hundredths cents hv := by
    have hvalue : (t.kept created).amount.value = t.amount.toCents / 100 :=
      Decimal.value_ofCents_of_lt hroom
    rw [hvalue, Decimal.toCents_of_value hv, hv]
  others := rfl

/-- **The row of a transaction is read as what cells keep of it**: the amount in
hundredths and the times in whole microseconds. -/
theorem toRecord_kept (hroom : t.amount.toCents.natAbs < centsLimit) (hdate : t.date.FitsCell)
    (hcreated : created.cut.FitsCell) (hupdated : t.updatedAt.cut.FitsCell) :
    TransactionRow.toRecord { TransactionRow.of t with createdAt := .finite created.micros } =
      .ok (t.kept created) := by
  have hvalue : (t.kept created).amount.value = t.amount.toCents / 100 :=
    Decimal.value_ofCents_of_lt hroom
  have hcents : (t.kept created).amount.toCents = t.amount.toCents :=
    Decimal.toCents_of_value hvalue
  have hfits : (t.kept created).FitsCells := ⟨⟨_, hvalue, hroom⟩, hdate, hcreated, hupdated⟩
  have hrow : TransactionRow.of (t.kept created) =
      { TransactionRow.of t with createdAt := .finite created.micros } := by
    have hmicros : ∀ s : Instant, s.cut.micros = s.micros := fun s => Instant.micros_ofMicros _
    unfold TransactionRow.of
    rw [hcents]
    unfold kept
    dsimp only
    rw [hmicros, hmicros]
  rw [← hrow, hfits.toRecord, hcents]
  rfl

end Transaction

namespace Database

variable {d d' : Database} {user : String} {id : Id}

/-! ### Rows of transactions -/

/-- What is read of a transaction is what is in its row. -/
theorem getTransaction_of_row {row : TransactionRow} {t : Transaction}
    (hrow : d.transactionRow? user id = some row) (hread : row.toRecord = .ok t) :
    (d.answer (.getTransaction user id)).1 = .ok (some t) := by
  dsimp only [answer]
  rw [hrow]
  unfold readOne
  dsimp only
  rw [hread]
  rfl

/-- A transaction that is inserted has its row in the table. -/
theorem transactionRow?_insert {t : Transaction}
    (h : d.answer (.insertTransaction t) = (.ok (), d')) :
    t.amount.toCents.natAbs < centsLimit ∧ d'.transactionRow? t.user t.id = some (.of t) := by
  have hw := d.wrote_answer (.insertTransaction t)
  rw [h] at hw
  cases hw with
  | read hreads => cases hreads
  | transactionAdded hroom hnew =>
    refine ⟨hroom, find?_append_new (fun row hrow => ?_) (hits_iff.2 ⟨rfl, rfl⟩)⟩
    exact Bool.eq_false_iff.2 fun hhit => hnew row hrow (hits_iff.1 hhit).1

/-- A change to rows is seen in the row that is found, if it leaves alone what
rows are found by, which are the identifier and the user. -/
theorem transactionRow?_map {change : TransactionRow → TransactionRow}
    (hsame : ∀ row, (change row).id = row.id ∧ (change row).user = row.user)
    {row : TransactionRow} (hr : d.transactionRow? user id = some row) :
    ({ d with transactions := d.transactions.map change } : Database).transactionRow? user id =
      some (change row) :=
  find?_map_of_some hr fun row => by rw [(hsame row).1, (hsame row).2]

/-- A row that is written over is found as before: the statement that writes it
looks for its identifier and user, and writes neither. -/
theorem writtenOver_same (t : Transaction) (row : TransactionRow) :
    (writtenOver t row).id = row.id ∧ (writtenOver t row).user = row.user := by
  unfold writtenOver
  split
  · rename_i hhit
    obtain ⟨hid, huser⟩ := hits_iff.1 hhit
    exact ⟨hid.symm, huser.symm⟩
  · exact ⟨rfl, rfl⟩

/-- Nor does the statement write the time of creation. -/
theorem writtenOver_createdAt (t : Transaction) (row : TransactionRow) :
    (writtenOver t row).createdAt = row.createdAt := by
  unfold writtenOver
  split <;> rfl

/-- A transaction that is written over has the row of the new one, and the time
of creation of the old one. -/
theorem transactionRow?_update {t : Transaction} {row : TransactionRow}
    (hrow : d.transactionRow? t.user t.id = some row)
    (h : d.answer (.updateTransaction t) = (.ok (), d')) :
    t.amount.toCents.natAbs < centsLimit ∧ d'.transactionRow? t.user t.id =
      some { TransactionRow.of t with createdAt := row.createdAt } := by
  have hw := d.wrote_answer (.updateTransaction t)
  rw [h] at hw
  cases hw with
  | read hreads => cases hreads
  | transactionReplaced hroom =>
    refine ⟨hroom, ?_⟩
    rw [transactionRow?_map (writtenOver_same t) hrow]
    exact congrArg some (if_pos (List.find?_some hrow))

/-! ### The time of creation stays -/

/-- The row of a transaction is there, with its time of creation.  This is what
a history of calls keeps between two reads. -/
def CreatedAt (d : Database) (user : String) (id : Id) (c : TimeCell) : Prop :=
  ∃ row, d.transactionRow? user id = some row ∧ row.createdAt = c

/-- **No call takes a transaction out or changes when it was created.** No
statement names that column but the one that inserts the row. -/
theorem Wrote.createdAt {call : Call} {ok : Bool} {c : TimeCell} (hw : d.Wrote call ok d')
    (h : d.CreatedAt user id c) : d'.CreatedAt user id c := by
  have hthere := h
  obtain ⟨row, hrow, hcreated⟩ := hthere
  cases hw with
  | transactionAdded => exact ⟨row, find?_append_of_some hrow _, hcreated⟩
  | @transactionReplaced t =>
    exact ⟨_, transactionRow?_map (writtenOver_same t) hrow,
      (writtenOver_createdAt t row).trans hcreated⟩
  | groupAssigned =>
    refine ⟨_, transactionRow?_map (fun row => by split <;> exact ⟨rfl, rfl⟩) hrow, ?_⟩
    split <;> exact hcreated
  | _ => exact h

end Database

/-! ### The round trip -/

/-- **A store of rows gives back what it was given**, as cells keep it.  A
transaction that was inserted is read back; one that was put in place of another
is read back with the time at which the first of them was created, whatever
calls came in between.  Dates and times are to have years from 1 to 9999. -/
theorem stored_transactions_come_back :
    (∀ (d d' : Database) (t : Transaction), t.date.FitsCell → t.createdAt.cut.FitsCell →
      t.updatedAt.cut.FitsCell → Store.answer (.insertTransaction t) d = (.ok (), d') →
        ∃ t', (Store.answer (.getTransaction t.user t.id) d').1 = .ok (some t') ∧
          t.ComesBackAs t.createdAt t') ∧
    (∀ (d₀ d d' : Database) (first t : Transaction) (calls : List Call), t.id = first.id →
      t.user = first.user → t.date.FitsCell → first.createdAt.cut.FitsCell →
      t.updatedAt.cut.FitsCell → Store.answer (.insertTransaction first) d₀ = (.ok (), d) →
      Store.answer (.updateTransaction t) (Store.after calls d) = (.ok (), d') →
        ∃ t', (Store.answer (.getTransaction t.user t.id) d').1 = .ok (some t') ∧
          t.ComesBackAs first.createdAt t') := by
  constructor
  · intro d d' t hdate hcreated hupdated h
    obtain ⟨hroom, hrow⟩ := Database.transactionRow?_insert h
    have hread := Transaction.toRecord_kept hroom hdate hcreated hupdated
    exact ⟨_, Database.getTransaction_of_row hrow hread, Transaction.comesBackAs_kept hroom⟩
  · intro d₀ d d' first t calls hid huser hdate hcreated hupdated hfirst h
    have hstays : (Store.after calls d).CreatedAt t.user t.id (.finite first.createdAt.micros) := by
      refine Store.after_keeps (P := fun d : Database => d.CreatedAt t.user t.id _)
        (fun c _ d hd => (Database.wrote_answer d c).createdAt hd) ?_
      rw [hid, huser]
      exact ⟨_, (Database.transactionRow?_insert hfirst).2, rfl⟩
    obtain ⟨row, hold, hrowCreated⟩ := hstays
    obtain ⟨hroom, hrow⟩ := Database.transactionRow?_update hold h
    rw [hrowCreated] at hrow
    have hread := Transaction.toRecord_kept hroom hdate hcreated hupdated
    exact ⟨_, Database.getTransaction_of_row hrow hread, Transaction.comesBackAs_kept hroom⟩

namespace Sample

/-- A purchase of so much on the first day of 1970. -/
def paid (amount : Decimal) : Transaction :=
  { id := ⟨1#128⟩, user := "ana", account := ⟨0#128⟩, amount, description := some "bakery bread"
    date := ⟨0⟩, createdAt := ⟨0, 0⟩, updatedAt := ⟨0, 0⟩ }

/-- A purchase of `-42.17`, in three places. -/
def bought : Transaction := paid ⟨-42170, 3, by decide, by decide⟩

/-- The purchase as it is written a day later, for half a cent more, to the
nanosecond. -/
def corrected : Transaction :=
  { paid ⟨-42175, 3, by decide, by decide⟩ with
    createdAt := ⟨86400, 1999⟩, updatedAt := ⟨86400, 1999⟩ }

/-- The start of the year before the first. -/
def beforeEra : Instant := ⟨-719528 * 86400, 0⟩

/-- A purchase with a date or a time of the year before the first. -/
def tooOld : List Transaction :=
  [{ paid .zero with date := beforeEra.date }, { paid .zero with createdAt := beforeEra },
    { paid .zero with updatedAt := beforeEra }]

end Sample

/-- The purchase comes back with its amount, and as it was corrected with the
rounded one; then it was still created when it was first stored. -/
theorem purchase_comes_back :
    (∃ d' t', Store.answer (.insertTransaction Sample.bought) ({} : Database) = (.ok (), d') ∧
      (Store.answer (.getTransaction "ana" ⟨1#128⟩) d').1 = .ok (some t') ∧
      t'.amount.value = Sample.bought.amount.value) ∧
    ∃ d d' t', Store.answer (.insertTransaction Sample.bought) ({} : Database) = (.ok (), d) ∧
      Store.answer (.updateTransaction Sample.corrected)
        (Store.after [.assign "ana" (some 7) none [⟨1#128⟩] ⟨60, 0⟩] d) = (.ok (), d') ∧
      (Store.answer (.getTransaction "ana" ⟨1#128⟩) d').1 = .ok (some t') ∧
      t'.createdAt = ⟨0, 0⟩ ∧ t'.updatedAt = ⟨86400, 1000⟩ ∧ t'.amount.value = -4218 / 100 := by
  obtain ⟨hinsert, hupdate⟩ := stored_transactions_come_back
  constructor
  · obtain ⟨t', hget, hback⟩ := hinsert {} _ Sample.bought (by decide) (by decide) (by decide) rfl
    have hvalue : Sample.bought.amount.value = (-4217 : ℤ) / 100 := by
      norm_num [Decimal.value, Sample.bought, Sample.paid, tenPow]
    exact ⟨_, t', rfl, hget, hback.hundredths _ hvalue⟩
  · obtain ⟨t', hget, hback⟩ := hupdate {} _ _ Sample.bought Sample.corrected
      [.assign "ana" (some 7) none [⟨1#128⟩] ⟨60, 0⟩] rfl rfl (by decide) (by decide) (by decide)
      rfl rfl
    refine ⟨_, _, t', rfl, rfl, hget, ?_, ?_, ?_⟩
    · rw [hback.others]
      rfl
    · rw [hback.others]
      rfl
    · rw [hback.amount, ← Decimal.toCents_eq_roundAway]
      rfl

/-- **Not all that is accepted comes back as it was**: `1.005` is read as
`1.01`, and what has a date or a time before the first year cannot be read at
all. -/
theorem half_cent_is_rounded_and_old_dates_are_lost :
    (∃ d' t', Store.answer (.insertTransaction (Sample.paid ⟨1005, 3, by decide, by decide⟩))
        ({} : Database) = (.ok (), d') ∧
      (Store.answer (.getTransaction "ana" ⟨1#128⟩) d').1 = .ok (some t') ∧
      t'.amount.sameValue ⟨1005, 3, by decide, by decide⟩ = false) ∧
    ∀ t ∈ Sample.tooOld, ∃ d' e,
      Store.answer (.insertTransaction t) ({} : Database) = (.ok (), d') ∧
      (Store.answer (.getTransaction t.user t.id) d').1 = .error e := by
  refine ⟨⟨_, _, rfl, rfl, by decide⟩, fun t ht => ?_⟩
  simp only [Sample.tooOld, List.mem_cons, List.not_mem_nil, or_false] at ht
  rcases ht with rfl | rfl | rfl <;> exact ⟨_, _, rfl, rfl⟩

end LedgerRules
