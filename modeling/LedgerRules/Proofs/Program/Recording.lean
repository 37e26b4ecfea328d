/-
# Recording and editing transactions

Both operations store the row of a transaction, have the rules look at it unless
there is nothing left for them, and read it back (`Memory.Concludes`).  What
happens to the store is told here in full, for any store: `Memory.Records` and
`Memory.Edits` give the answer and the store after it.

Storing the row and classifying it are two calls.  An operation that fails
before the row is stored changes nothing.  One that fails after it does so
because the write of what the rules propose was rejected, and then the row is in
the store as it was asked for, without the targets.  The error tells the two
apart (`failed_ledger_operation_leaves`).
-/

import LedgerRules.Proofs.Program.RuleIds

namespace LedgerRules
namespace Memory

variable {m m' : Memory} {user : String} {id : Id}

/-- The store with one more transaction, behind the others.  Recording one does
no more than this before rules are applied. -/
def enter (m : Memory) (t : Transaction) : Memory :=
  { m with transactions := m.transactions ++ [t] }

/-- The store with a transaction in place of the one that has its identifier.
Only a transaction of the same user is replaced. -/
def putBack (m : Memory) (t : Transaction) : Memory :=
  { m with
    transactions := modifyFirst (fun x => x.id == t.id && x.user == t.user) (fun _ => t)
      m.transactions }

/-- Two stores hold the same records.  Attempts at grouped writes that are on
record may differ. -/
def SameRecords (m m' : Memory) : Prop :=
  m'.accounts = m.accounts ∧ m'.transactions = m.transactions ∧ m'.rules = m.rules

/-- A store holds the same records as it does itself. -/
theorem SameRecords.refl (m : Memory) : m.SameRecords m := ⟨rfl, rfl, rfl⟩

/-! ### The row is read back -/

/-- A transaction that was entered behind others is the one that has its
identifier. -/
theorem transaction?_enter {t : Transaction} (h : ∀ s ∈ m.transactions, s.id ≠ t.id) :
    (m.enter t).transaction? t.user t.id = some t := by
  unfold transaction? enter
  rw [List.find?_append, List.find?_eq_none.2 fun s hs => by simp [h s hs], Option.none_or]
  simp

/-- A transaction that was put back is the one that has its identifier. -/
theorem transaction?_putBack {t old : Transaction} (h : m.transaction? t.user t.id = some old) :
    (m.putBack t).transaction? t.user t.id = some t :=
  find?_modifyFirst h (by simp)

/-- A grouped write takes no transaction out. -/
theorem transaction?_assign (m : Memory) (user' : String) (o : Outcome) (ids : List Id)
    (now : Instant) :
    ((m.assign user' o.category o.merchant ids now).2.transaction? user id).isSome =
      (m.transaction? user id).isSome := by
  by_cases hf : o.pair ∈ m.failing
  · rw [assign_of_failing hf]
    rfl
  · rw [assign_of_not_failing hf]
    unfold transaction?
    have hsame : (fun t : Transaction => t.id == id && t.user == user) ∘ (fun t =>
        if reaches user' ids t then t.assign o.category o.merchant now else t) =
        fun t => t.id == id && t.user == user := by
      funext t
      rw [Function.comp_apply]
      split <;> rfl
    rw [List.find?_map, hsame, Option.isSome_map]

/-- Nor does the application of rules. -/
theorem Classifies.isSome_transaction? {r : Except Error Outcome} {id' : Id}
    (h : m.Classifies user id' r m') :
    (m'.transaction? user id).isSome = (m.transaction? user id).isSome := by
  cases h with
  | missing _ => rfl
  | silent _ _ _ => rfl
  | @refused _ o _ _ _ _ now => exact m.transaction?_assign user o [id'] now
  | @written _ o _ _ _ _ now later =>
    rw [← m.transaction?_assign user o [id'] now]
    unfold transaction?
    rw [(sameButUsage_countAll _ _ _).transactions]

/-- The application of rules changes targets and times of transactions, and
nothing else. -/
theorem Classifies.sameButTargets {r : Except Error Outcome} (h : m.Classifies user id r m') :
    List.Forall₂ (fun t t' : Transaction => t' = { t with
        category := t'.category
        merchant := t'.merchant
        updatedAt := t'.updatedAt }) m.transactions m'.transactions := by
  have hassign : ∀ (o : Outcome) (now : Instant),
      List.Forall₂ (fun t t' : Transaction => t' = { t with
        category := t'.category
        merchant := t'.merchant
        updatedAt := t'.updatedAt }) m.transactions
        (m.assign user o.category o.merchant [id] now).2.transactions := by
    intro o now
    by_cases hf : o.pair ∈ m.failing
    · rw [assign_of_failing hf]
      exact List.forall₂_same.2 fun _ _ => rfl
    · rw [assign_of_not_failing hf]
      refine List.forall₂_map_right_iff.2 (List.forall₂_same.2 fun t _ => ?_)
      split <;> rfl
  cases h with
  | missing _ => exact List.forall₂_same.2 fun _ _ => rfl
  | silent _ _ _ => exact List.forall₂_same.2 fun _ _ => rfl
  | refused _ _ _ _ now => exact hassign _ now
  | written _ _ _ _ now later =>
    rw [(sameButUsage_countAll _ _ _).transactions]
    exact hassign _ now

/-! ### What the operations do -/

/-- How an operation ends that has stored the row of a transaction: the rules
look at it if `again` says so, and it is read back. -/
inductive Concludes (m : Memory) (user : String) (id : Id) (again : Bool) :
    Except Error Transaction → Memory → Prop
  | refused {m' : Memory} {e : Error} (ha : again = true) (h : m.Classifies user id (.error e) m') :
    Concludes m user id again (.error e) m'
  | classified {m' : Memory} {o : Outcome} {t : Transaction} (ha : again = true)
      (h : m.Classifies user id (.ok o) m') (ht : m'.transaction? user id = some t) :
    Concludes m user id again (.ok t) m'
  | plain {t : Transaction} (ha : again = false) (ht : m.transaction? user id = some t) :
    Concludes m user id again (.ok t) m

/-- How a transaction is recorded: the answer and the store after it.  There is
one case for each way in which that can end. -/
inductive Records (m : Memory) (user : String) (new : NewTransaction) :
    Except Error Transaction → Memory → Prop
  | noAccount (h : m.account? user new.account = none) :
    Records m user new (.error (.missing (.account new.account))) m
  | taken {id : Id} (h : ∃ t ∈ m.transactions, t.id = id) :
    Records m user new (.error (.store (.duplicateTransaction id))) m
  | stored {m' : Memory} {account : Account} {id : Id} {today : Date} {now : Instant}
      {t : Transaction} {r : Except Error Transaction}
      (ha : m.account? user new.account = some account) (hid : ∀ s ∈ m.transactions, s.id ≠ id)
      (ht : new.transaction account id user today now = t)
      (h : (m.enter t).Concludes user id (!t.fullyManual) r m') :
    Records m user new r m'

/-- How a transaction is edited: the answer and the store after it.  There is
one case for each way in which that can end. -/
inductive Edits (m : Memory) (user : String) (id : Id) (update : TransactionUpdate) :
    Except Error Transaction → Memory → Prop
  | missing (h : m.transaction? user id = none) :
    Edits m user id update (.error (.missing (.transaction id))) m
  | stored {m' : Memory} {old t : Transaction} {now : Instant} {r : Except Error Transaction}
      (ho : m.transaction? user id = some old) (ht : { update.apply old with updatedAt := now } = t)
      (h : (m.putBack t).Concludes user id (update.reapplies && !t.fullyManual) r m') :
    Edits m user id update r m'

end Memory

/-- The transaction that a request makes of an account: it takes the identifier
that is drawn next, and the clock is read for the day and for the times. -/
def World.entry (w : World Memory) (user : String) (new : NewTransaction) (account : Account) :
    Transaction :=
  new.transaction account w.supply.draw.1 user w.supply.tick.1.date w.supply.tick.2.draw.2.tick.1

namespace Action

variable {w : World Memory} {user : String} {id : Id}

/-- The end of both operations: rules are applied where that is asked for, and
the transaction is read back. -/
theorem conclude_yields {again : Bool} (h : (w.store.transaction? user id).isSome = true) :
    Yields (if again = true then do
        let _ ← applyToTransaction user id
        getTransaction user id
      else getTransaction user id) w fun r w' => w.store.Concludes user id again r w'.store := by
  cases again with
  | false =>
    obtain ⟨t, ht⟩ := Option.isSome_iff_exists.1 h
    exact (yields_transaction_of_some ht).2 (.plain rfl ht)
  | true =>
    refine yields_bind.2 ((applyToTransaction_yields user id w).mono fun r w' hclass => ?_)
    cases r with
    | error e => exact .refused rfl hclass
    | ok o =>
      obtain ⟨t, ht⟩ := Option.isSome_iff_exists.1 (hclass.isSome_transaction?.trans h)
      rw [goes_ok, yields_transaction_of_some ht]
      exact .classified rfl hclass ht

/-- On no account of the user nothing is recorded. -/
theorem addTransaction_yields_of_noAccount {new : NewTransaction}
    (ha : w.store.account? user new.account = none) :
    (addTransaction user new).Yields w fun r w' =>
      r = .error (.missing (.account new.account)) ∧ w' = w := by
  unfold addTransaction
  rw [yields_bind, yields_getAccount, goes_ok, ha]
  exact ⟨rfl, rfl⟩

/-- On an account of the user a transaction is recorded, unless the identifier
that is drawn for it is one of another transaction. -/
theorem addTransaction_yields_of_account {new : NewTransaction} {account : Account}
    (ha : w.store.account? user new.account = some account) :
    (addTransaction user new).Yields w fun r w' =>
      ((∃ s ∈ w.store.transactions, s.id = w.supply.draw.1) ∧
        r = .error (.store (.duplicateTransaction w.supply.draw.1)) ∧ w'.store = w.store) ∨
      ((∀ s ∈ w.store.transactions, s.id ≠ w.supply.draw.1) ∧
        (w.store.enter (w.entry user new account)).Concludes user w.supply.draw.1
          (!(w.entry user new account).fullyManual) r w'.store) := by
  unfold addTransaction
  rw [yields_bind, yields_getAccount, goes_ok, ha]
  dsimp only
  rw [yields_bind, yields_now, goes_ok, yields_bind, yields_freshId, goes_ok, yields_bind,
    yields_now, goes_ok, yields_bind, yields_insertTransaction]
  split
  · rename_i hany
    obtain ⟨s, hs, hid⟩ := List.any_eq_true.1 hany
    exact .inl ⟨⟨s, hs, beq_iff_eq.1 hid⟩, rfl, rfl⟩
  · rename_i hany
    have hid : ∀ s ∈ w.store.transactions, s.id ≠ w.supply.draw.1 := fun s hs he =>
      hany (List.any_eq_true.2 ⟨s, hs, beq_iff_eq.2 he⟩)
    rw [goes_ok]
    refine (conclude_yields ?_).mono fun r w' h => .inr ⟨hid, h⟩
    exact Option.isSome_of_eq_some (Memory.transaction?_enter hid)

/-- **A transaction is recorded as `Memory.Records` says.** The cases are gone
through here once, for all that is said of recording. -/
theorem addTransaction_yields (user : String) (new : NewTransaction) (w : World Memory) :
    (addTransaction user new).Yields w fun r w' => w.store.Records user new r w'.store := by
  cases ha : w.store.account? user new.account with
  | none =>
    refine (addTransaction_yields_of_noAccount ha).mono fun r w' h => ?_
    obtain ⟨rfl, rfl⟩ := h
    exact .noAccount ha
  | some account =>
    refine (addTransaction_yields_of_account ha).mono fun r w' h => ?_
    obtain ⟨hid, rfl, hstore⟩ | ⟨hid, h⟩ := h
    · rw [hstore]
      exact .taken hid
    · exact .stored ha hid rfl h

/-- **A transaction is edited as `Memory.Edits` says.** The cases are gone
through here once, for all that is said of edits. -/
theorem updateTransaction_yields (user : String) (id : Id) (update : TransactionUpdate)
    (w : World Memory) :
    (updateTransaction user id update).Yields w fun r w' =>
      w.store.Edits user id update r w'.store := by
  unfold updateTransaction
  rw [yields_bind]
  cases ho : w.store.transaction? user id with
  | none =>
    rw [yields_transaction_of_none ho]
    exact .missing ho
  | some old =>
    rw [yields_transaction_of_some ho, goes_ok, yields_bind, yields_now, goes_ok, yields_bind]
    obtain ⟨-, rfl, rfl⟩ := Memory.transaction?_mem ho
    refine (yields_updateTransaction ?_).2 ?_
    · exact Option.isSome_of_eq_some ho
    rw [goes_ok]
    refine (conclude_yields ?_).mono fun r w' h => .stored ho rfl h
    exact Option.isSome_of_eq_some (Memory.transaction?_putBack ho)

end Action

/-! ### What is left behind -/

namespace Memory

variable {m m' : Memory} {user : String} {id : Id} {e : Error}

/-- The one way to fail once the row is stored: what the rules propose may not
be written.  The records are those from before the rules looked at it. -/
theorem Concludes.error {t : Transaction} {again : Bool}
    (h : m.Concludes user id again (.error e) m')
    (ht : m.transaction? user id = some t) :
    e = .store .groupRejected ∧ (m.proposal user false t).pair ∈ m.failing ∧ m.SameRecords m' := by
  cases h with
  | refused _ h =>
    cases h with
    | missing h => exact absurd (h.symm.trans ht) nofun
    | @refused s o h hp _ hf now =>
      obtain rfl := Option.some.inj (h.symm.trans ht)
      subst hp
      rw [assign_of_failing hf]
      exact ⟨rfl, hf, rfl, rfl, rfl⟩

/-- What is left behind by a failed operation that was to store a row: nothing,
unless the error is the rejection of what the rules propose for the row.  Then
the row is stored, and the records are otherwise as they were. -/
structure Leaves (m : Memory) (user : String) (row : Transaction → Prop)
    (store : Transaction → Memory) (e : Error) (m' : Memory) : Prop where
  nothing : e ≠ .store .groupRejected → m.SameRecords m'
  unclassified : e = .store .groupRejected →
    ∃ t, row t ∧ (m.proposal user false t).pair ∈ m.failing ∧ (store t).SameRecords m'

/-- The row that a request asks to record, on an account of the user, with any
identifier and at any time.  What rules add to it is not part of it. -/
def RowOf (m : Memory) (user : String) (new : NewTransaction) (t : Transaction) : Prop :=
  ∃ account id today now, m.account? user new.account = some account ∧
    t = new.transaction account id user today now

/-- The row that an edit asks for, changed at any time.  What rules add to it is
not part of it. -/
def EditOf (m : Memory) (user : String) (id : Id) (update : TransactionUpdate) (t : Transaction) :
    Prop :=
  ∃ old now, m.transaction? user id = some old ∧ t = { update.apply old with updatedAt := now }

/-- Failing to record a transaction leaves what `Leaves` says, by the cases of
how it can end. -/
theorem Records.leaves {new : NewTransaction} (h : m.Records user new (.error e) m') :
    m.Leaves user (m.RowOf user new) m.enter e m' := by
  cases h with
  | noAccount _ => exact ⟨fun _ => .refl m, nofun⟩
  | taken _ => exact ⟨fun _ => .refl m, nofun⟩
  | @stored _ account id today now _ _ ha hid ht h =>
    subst ht
    obtain ⟨rfl, hf, hs⟩ := h.error (transaction?_enter hid)
    exact ⟨fun hne => absurd rfl hne, fun _ => ⟨_, ⟨account, id, today, now, ha, rfl⟩, hf, hs⟩⟩

/-- And so does failing to edit one. -/
theorem Edits.leaves {update : TransactionUpdate} (h : m.Edits user id update (.error e) m') :
    m.Leaves user (m.EditOf user id update) m.putBack e m' := by
  cases h with
  | missing _ => exact ⟨fun _ => .refl m, nofun⟩
  | @stored _ old _ now _ ho ht h =>
    subst ht
    obtain ⟨-, rfl, rfl⟩ := transaction?_mem ho
    have hback := transaction?_putBack (t := { update.apply old with updatedAt := now }) ho
    obtain ⟨rfl, hf, hs⟩ := h.error hback
    exact ⟨fun hne => absurd rfl hne, fun _ => ⟨_, ⟨old, now, ho, rfl⟩, hf, hs⟩⟩

end Memory

/-- **What a failed request to record or to edit a transaction leaves behind**,
in any store: nothing, unless the error is the rejection of what the rules
propose for the row.  Then the row is in the store as it was asked for, and
accounts, rules and the other transactions are what they were. -/
theorem failed_ledger_operation_leaves (w : World Memory) (user : String) :
    (∀ new e w', (Action.addTransaction user new).run w = (.error e, w') →
      w.store.Leaves user (w.store.RowOf user new) w.store.enter e w'.store) ∧
    (∀ id update e w', (Action.updateTransaction user id update).run w = (.error e, w') →
      w.store.Leaves user (w.store.EditOf user id update) w.store.putBack e w'.store) := by
  constructor
  · intro new e w' hrun
    have h := Action.addTransaction_yields user new w
    unfold Action.Yields at h
    rw [hrun] at h
    exact h.leaves
  · intro id update e w' hrun
    have h := Action.updateTransaction_yields user id update w
    unfold Action.Yields at h
    rw [hrun] at h
    exact h.leaves

namespace Sample

/-- A third purchase, which the rules of the sample have a proposal for. -/
def roll : NewTransaction :=
  { account := ⟨0#128⟩, amount := .zero, description := some "bakery roll" }

/-- What the rules propose for it cannot be written, so recording it fails. -/
theorem roll_fails : ∃ e w', (Action.addTransaction "ana" roll).run world = (.error e, w') ∧
    w'.store.transactions.length = 3 := by
  have hfail : ((Action.addTransaction "ana" roll).run world).1.isOk = false := by decide +kernel
  have hlen : ((Action.addTransaction "ana" roll).run world).2.store.transactions.length = 3 := by
    decide +kernel
  obtain ⟨e, he⟩ := Action.exists_error hfail
  exact ⟨e, _, he, hlen⟩

/-- An edit of the second one. -/
def tart : TransactionUpdate := { description := some "bakery tart" }

/-- It has the rules look at the cake again, so it fails in the same way as
recording does. -/
theorem tart_fails :
    ∃ e w', (Action.updateTransaction "ana" ⟨2#128⟩ tart).run world = (.error e, w') := by
  have hfail : ((Action.updateTransaction "ana" ⟨2#128⟩ tart).run world).1.isOk = false := by
    decide +kernel
  obtain ⟨e, he⟩ := Action.exists_error hfail
  exact ⟨e, _, he⟩

end Sample

/-- The purchase that could not be classified is in the store, and so is the
edit. -/
theorem roll_left_unclassified :
    (∃ e w', (Action.addTransaction "ana" Sample.roll).run Sample.world = (.error e, w') ∧
      Sample.world.store.Leaves "ana" (Sample.world.store.RowOf "ana" Sample.roll)
        Sample.world.store.enter e w'.store) ∧
    ∃ e w', (Action.updateTransaction "ana" ⟨2#128⟩ Sample.tart).run Sample.world = (.error e, w') ∧
      Sample.world.store.Leaves "ana" (Sample.world.store.EditOf "ana" ⟨2#128⟩ Sample.tart)
        Sample.world.store.putBack e w'.store := by
  obtain ⟨hadd, hedit⟩ := failed_ledger_operation_leaves Sample.world "ana"
  constructor
  · obtain ⟨e, w', hrun, -⟩ := Sample.roll_fails
    exact ⟨e, w', hrun, hadd _ _ _ hrun⟩
  · obtain ⟨e, w', hrun⟩ := Sample.tart_fails
    exact ⟨e, w', hrun, hedit _ _ _ _ hrun⟩

/-- Not every failed request to record a transaction leaves the records as they
were. -/
theorem failed_recording_changes_records :
    ¬∀ (w : World Memory) user new e w', (Action.addTransaction user new).run w = (.error e, w') →
      w.store.SameRecords w'.store := by
  intro h
  obtain ⟨e, w', hrun, hlen⟩ := Sample.roll_fails
  have hbefore : Sample.world.store.transactions.length = 2 := by decide +kernel
  rw [(h _ _ _ _ _ hrun).2.1, hbefore] at hlen
  exact absurd hlen (by decide)

end LedgerRules
