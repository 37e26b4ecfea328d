/-
# What is recorded for a request

A transaction is stored as it was asked for, and then with what the rules
propose for it.  So the fields of the one that is recorded come from five
places: the request, the account, the clock, and for each target a search of its
own through the active rules (`Transaction.RecordedFor`).

The rules look at the transaction as it was stored, and what they look at can be
said before it is (`NewTransaction.factsOn`).  `Memory.Concludes.replaces`
carries the rest: what is answered stands where the row was appended.
-/

import LedgerRules.Proofs.Outcome.FirstMatch
import LedgerRules.Proofs.Program.Editing

namespace LedgerRules

/-! ### The recorded transaction -/

/-- What rules see of a request for a transaction on an account: the merchant
without the blanks around it, the size of the amount, and a direction and a
currency in any case. -/
def NewTransaction.factsOn (new : NewTransaction) (account : Account) : Facts :=
  { merchant := normalizeMerchant new.merchant
    description := new.description
    direction := some (new.direction.getD (directionOf new.amount))
    accountType := account.accountType
    accountName := some account.name
    bank := account.bank
    currency := some ((new.currency.map normalizeCurrency).getD account.currency)
    amount := some new.amount.abs }

/-- A transaction that is recorded for a request, whenever it was changed last.
The direction comes from the sign unless it is given, the currency from the
account, the day from the clock.  A category that is given is set by hand, and
so is a merchant if the request says so and it is not blank.  Every other target
is that of the first active rule that matches and carries it, and without such a
rule a merchant is the one that was given. -/
structure Transaction.RecordedFor (w : World Memory) (user : String) (new : NewTransaction)
    (account : Account) (t : Transaction) : Prop where
  drawn : t.id = w.supply.draw.1
  owner : t.user = user
  onAccount : t.account = account.id
  amount : t.amount = new.amount
  description : t.description = new.description
  date : t.date = new.date.getD w.supply.tick.1.date
  createdAt : t.createdAt = w.supply.clock (w.supply.read + 1)
  direction : t.direction = some (new.direction.getD (if new.amount.isNegative then 0 else 1))
  currency : t.currency = some ((new.currency.map normalizeCurrency).getD account.currency)
  categoryGiven : ∀ category, new.category = some category →
    t.category = some category ∧ t.categoryManual = true
  categoryOpen : new.category = none →
    t.category = (Rule.first? Rule.category (w.store.activeRulesOf user)
      (new.factsOn account)).bind Rule.category ∧ t.categoryManual = false
  merchantByHand : ∀ merchant, new.merchant = some merchant → Text.trim merchant ≠ "" →
    new.merchantManual = true → t.merchant = some (Text.trim merchant) ∧ t.merchantManual = true
  merchantOpen :
    (∀ merchant, new.merchant = some merchant →
      Text.trim merchant = "" ∨ new.merchantManual = false) →
    t.merchant = ((Rule.first? Rule.merchant (w.store.activeRulesOf user)
      (new.factsOn account)).bind Rule.merchant).or (normalizeMerchant new.merchant) ∧
    t.merchantManual = false

namespace NewTransaction

variable {new : NewTransaction} {account : Account} {user : String}

/-- The rules see of the row what they see of the request, so it can be said
beforehand what they will propose. -/
theorem facts_transaction (new : NewTransaction) (account : Account) (id : Id) (user : String)
    (today : Date) (now : Instant) :
    (new.transaction account id user today now).facts (some account.view) = new.factsOn account :=
  rfl

/-- A merchant is set by hand if the request says so and it is not blank. -/
theorem merchantManual_iff :
    (new.merchantManual && (normalizeMerchant new.merchant).isSome) = true ↔
      ∃ merchant, new.merchant = some merchant ∧ Text.trim merchant ≠ "" ∧
        new.merchantManual = true := by
  cases hm : new.merchant with
  | none => simp [normalizeMerchant]
  | some merchant =>
    rw [TransactionUpdate.normalizeMerchant_some]
    by_cases hblank : Text.trim merchant = "" <;> simp [hblank]

end NewTransaction

namespace Memory

variable {m m' : Memory} {t : Transaction} {user : String}

/-- One more transaction with a new identifier leaves identifiers distinct. -/
theorem Distinct.enter (hd : m.Distinct) (hid : ∀ s ∈ m.transactions, s.id ≠ t.id) :
    (m.enter t).Distinct :=
  nodup_map_concat hd hid

/-- What replaces the transaction that was entered last stands at the end. -/
theorem replaceIn_enter {s : Transaction} (hid : ∀ x ∈ m.transactions, x.id ≠ t.id)
    (hs : s.id = t.id) : s.replaceIn (m.enter t).transactions = m.transactions ++ [s] := by
  unfold Transaction.replaceIn Memory.enter
  rw [List.map_append, List.map_singleton, if_pos hs.symm]
  refine congrArg (· ++ [s]) ((List.map_congr_left fun x hx => ?_).trans (List.map_id _))
  exact if_neg fun h => hid x hx (h.trans hs)

/-- Neither the rules nor the accounts of a store change as it gets one more
transaction, so they propose for it what they did before. -/
theorem reclassified_enter (m : Memory) (t t' : Transaction) (user : String) :
    (m.enter t).reclassified user t' = m.reclassified user t' := rfl

/-- An operation that stores a row and has it classified changes rules in how
often and when they were applied, and in nothing else. -/
theorem Concludes.rules {again : Bool} {r : Except Error Transaction} {id : Id}
    (h : m.Concludes user id again r m') : List.Forall₂ Rule.SameButUsage m.rules m'.rules := by
  cases h with
  | refused _ h => exact h.frame.2.2
  | classified _ h _ => exact h.frame.2.2
  | plain _ _ => exact List.forall₂_same.2 fun r _ => .refl r

/-- No account of a user is found exactly if none has the identifier. -/
theorem account?_eq_none_iff {id : Id} :
    m.account? user id = none ↔ ∀ account ∈ m.accounts, account.user = user → account.id ≠ id := by
  unfold account?
  rw [List.find?_eq_none]
  refine forall₂_congr fun account _ => ?_
  rw [Id.found_iff, not_and, imp_not_comm]

/-- The rules make of the row of a request what they make of the request. -/
theorem reclassified_entry {w : World Memory} {new : NewTransaction} {account : Account}
    (ha : w.store.account? user new.account = some account) :
    w.store.reclassified user (w.entry user new account) = { w.entry user new account with
      category := if new.category.isSome = true then new.category
        else ((Rule.first? Rule.category (w.store.activeRulesOf user)
          (new.factsOn account)).bind Rule.category).or new.category
      merchant := if (new.merchantManual && (normalizeMerchant new.merchant).isSome) = true
        then normalizeMerchant new.merchant
        else ((Rule.first? Rule.merchant (w.store.activeRulesOf user)
          (new.factsOn account)).bind Rule.merchant).or (normalizeMerchant new.merchant) } := by
  have hfound := List.find?_some ha
  have hid : account.id = new.account := (Id.found_iff.1 hfound).1
  have hview : (w.store.account? user (w.entry user new account).account).map Account.view =
      some account.view := by
    show (w.store.account? user account.id).map Account.view = _
    rw [hid, ha]
    rfl
  have hfacts : (w.entry user new account).facts (some account.view) = new.factsOn account :=
    new.facts_transaction account _ _ _ _
  have hcategory := (Outcome.Slot.category.ofRules_eq (w.store.activeRulesOf user)
    (new.factsOn account)).1
  have hmerchant := (Outcome.Slot.merchant.ofRules_eq (w.store.activeRulesOf user)
    (new.factsOn account)).1
  unfold reclassified
  rw [hview, hfacts]
  dsimp only [Outcome.Slot.category, Outcome.Slot.merchant] at hcategory hmerchant ⊢
  rw [hcategory, hmerchant]
  rfl

/-- **The rules make of a row what was asked for.** What the request itself
gives counts as set by hand, so that rules leave it. -/
theorem recordedFor_reclassified {w : World Memory} {new : NewTransaction} {account : Account}
    {s : Transaction} (ha : w.store.account? user new.account = some account)
    (hs : (w.store.reclassified user (w.entry user new account)).SameButTime s) :
    s.RecordedFor w user new account := by
  obtain ⟨at_, rfl⟩ := hs
  have hbyHand := new.merchantManual_iff
  rw [reclassified_entry ha]
  exact {
    drawn := rfl
    owner := rfl
    onAccount := rfl
    amount := rfl
    description := rfl
    date := rfl
    createdAt := rfl
    direction := rfl
    currency := rfl
    categoryGiven := by
      intro category hc
      have hmanual : new.category.isSome = true := Option.isSome_iff_exists.2 ⟨category, hc⟩
      exact ⟨(if_pos hmanual).trans hc, hmanual⟩
    categoryOpen := by
      intro hc
      have hmanual : new.category.isSome = false := Option.isSome_eq_false_iff.2 (hc ▸ rfl)
      refine ⟨(if_neg (Bool.eq_false_iff.1 hmanual)).trans ?_, hmanual⟩
      rw [hc, Option.or_none]
    merchantByHand := by
      intro merchant hm hblank hset
      have hmanual := hbyHand.2 ⟨merchant, hm, hblank, hset⟩
      refine ⟨(if_pos hmanual).trans ?_, hmanual⟩
      rw [hm, TransactionUpdate.normalizeMerchant_some, if_neg hblank]
    merchantOpen := by
      intro hopen
      have hmanual : (new.merchantManual && (normalizeMerchant new.merchant).isSome) = false := by
        refine Bool.eq_false_iff.2 fun h => ?_
        obtain ⟨merchant, hm, hblank, hset⟩ := hbyHand.1 h
        exact (hopen merchant hm).elim hblank (Bool.eq_false_iff.1 · hset)
      exact ⟨if_neg (Bool.eq_false_iff.1 hmanual), hmanual⟩ }

end Memory

namespace Action

variable {w : World Memory} {user : String} {new : NewTransaction} {account : Account}

/-- A transaction is refused as one on a missing account exactly if there is no
such account. -/
theorem addTransaction_missing_iff (h : Reachable w) (hf : w.store.failing = []) {what : Missing}
    {w' : World Memory} :
    (addTransaction user new).run w = (.error (.missing what), w') ↔
      w.store.account? user new.account = none ∧ what = .account new.account ∧ w' = w := by
  cases ha : w.store.account? user new.account with
  | none =>
    obtain ⟨r, w₁, hrun, rfl, rfl⟩ := (addTransaction_yields_of_noAccount ha).exists_run
    rw [hrun]
    constructor
    · rintro ⟨⟩
      exact ⟨rfl, rfl, rfl⟩
    · rintro ⟨-, rfl, rfl⟩
      rfl
  | some account =>
    refine iff_of_false (fun hrun => ?_) fun h => absurd h.1 nofun
    have hcases := addTransaction_yields_of_account ha
    unfold Yields at hcases
    rw [hrun] at hcases
    obtain ⟨-, herror, -⟩ | ⟨hid, hend⟩ := hcases
    · cases herror
    · obtain ⟨s, hok, -⟩ := hend.replaces (h.distinct.enter hid) hf
        (List.mem_append_right _ (List.mem_singleton_self _))
      cases hok

/-- A transaction is not stored under an identifier that is taken. -/
theorem addTransaction_of_taken (ha : w.store.account? user new.account = some account)
    (htaken : ∃ s ∈ w.store.transactions, s.id = w.supply.draw.1) :
    ∃ w', (addTransaction user new).run w =
      (.error (.store (.duplicateTransaction w.supply.draw.1)), w') ∧ w'.store = w.store := by
  obtain ⟨r, w', hrun, hcases⟩ := (addTransaction_yields_of_account ha).exists_run
  obtain ⟨-, rfl, hstore⟩ | ⟨hid, -⟩ := hcases
  · exact ⟨w', hrun, hstore⟩
  · obtain ⟨s, hs, he⟩ := htaken
    exact absurd he (hid s hs)

/-- **A transaction on an account is recorded** under an identifier that is not
taken. -/
theorem addTransaction_of_account (h : Reachable w) (hf : w.store.failing = [])
    (ha : w.store.account? user new.account = some account)
    (hid : ∀ s ∈ w.store.transactions, s.id ≠ w.supply.draw.1) :
    ∃ t w', (addTransaction user new).run w = (.ok t, w') ∧
      w'.store.transactions = w.store.transactions ++ [t] ∧
      w'.store.accounts = w.store.accounts ∧
      List.Forall₂ Rule.SameButUsage w.store.rules w'.store.rules ∧
      t.RecordedFor w user new account := by
  obtain ⟨r, w', hrun, hcases⟩ := (addTransaction_yields_of_account ha).exists_run
  obtain ⟨⟨s, hs, he⟩, -⟩ | ⟨-, hend⟩ := hcases
  · exact absurd he (hid s hs)
  have hmem : w.entry user new account ∈
      (w.store.enter (w.entry user new account)).transactions :=
    List.mem_append_right _ (List.mem_singleton_self _)
  obtain ⟨s, rfl, hs, htransactions, haccounts⟩ :=
    hend.replaces (h.distinct.enter hid) hf hmem
  rw [Memory.reclassified_enter] at hs
  -- Whether the rules look at the row or have no say on it, this is what they make of it.
  have hs : (w.store.reclassified user (w.entry user new account)).SameButTime s := by
    cases hmanual : (w.entry user new account).fullyManual with
    | false => rwa [hmanual] at hs
    | true =>
      rw [Memory.reclassified_of_fullyManual _ _ hmanual]
      rwa [hmanual] at hs
  have hrecorded := Memory.recordedFor_reclassified ha hs
  rw [Memory.replaceIn_enter hid hrecorded.drawn] at htransactions
  exact ⟨s, w', hrun, htransactions, haccounts, hend.rules, hrecorded⟩

end Action

/-- **What is recorded is what the request and the rules say.** A transaction is
refused as one on a missing account exactly if no account of the user has the
identifier that the request names, and then nothing has changed.  Otherwise,
unless the identifier that is drawn is one of a transaction in the store, the
answer is a transaction as `RecordedFor` says, and it is appended to those in
the store; these are what they were, and so are the accounts and, up to how
often and when they were applied, the rules. -/
theorem recording_gives_what_request_and_rules_say {w : World Memory} (h : Reachable w)
    (hf : w.store.failing = []) (user : String) (new : NewTransaction) :
    (∀ what w', (Action.addTransaction user new).run w = (.error (.missing what), w') ↔
      (∀ account ∈ w.store.accounts, account.user = user → account.id ≠ new.account) ∧
        what = .account new.account ∧ w' = w) ∧
    ∀ account, w.store.account? user new.account = some account →
      ((∃ s ∈ w.store.transactions, s.id = w.supply.draw.1) →
        ∃ w', (Action.addTransaction user new).run w =
          (.error (.store (.duplicateTransaction w.supply.draw.1)), w') ∧ w'.store = w.store) ∧
      ((∀ s ∈ w.store.transactions, s.id ≠ w.supply.draw.1) →
        ∃ t w', (Action.addTransaction user new).run w = (.ok t, w') ∧
          w'.store.transactions = w.store.transactions ++ [t] ∧
          w'.store.accounts = w.store.accounts ∧
          List.Forall₂ Rule.SameButUsage w.store.rules w'.store.rules ∧
          t.RecordedFor w user new account) := by
  constructor
  · intro what w'
    rw [← Memory.account?_eq_none_iff]
    exact Action.addTransaction_missing_iff h hf
  · intro account ha
    exact ⟨Action.addTransaction_of_taken ha, Action.addTransaction_of_account h hf ha⟩

/-- The roll gets its category and its merchant from the rule of the sample, and
everything else from the request and the account. -/
theorem roll_recorded_with_targets_of_rule :
    Sample.free.store.failing = [] ∧ ∃ account t w',
      Sample.free.store.account? "ana" Sample.roll.account = some account ∧
      (∀ s ∈ Sample.free.store.transactions, s.id ≠ Sample.free.supply.draw.1) ∧
      (Action.addTransaction "ana" Sample.roll).run Sample.free = (.ok t, w') ∧
      w'.store.transactions = Sample.free.store.transactions ++ [t] ∧
      t.RecordedFor Sample.free "ana" Sample.roll account ∧
      t.category = some 9 ∧ t.merchant = some "Baker" := by
  obtain ⟨account, ha⟩ : ∃ account,
      Sample.free.store.account? "ana" Sample.roll.account = some account :=
    Option.isSome_iff_exists.1 (by decide +kernel)
  have hid : ∀ s ∈ Sample.free.store.transactions, s.id ≠ Sample.free.supply.draw.1 := by
    decide +kernel
  obtain ⟨-, hfound⟩ :=
    recording_gives_what_request_and_rules_say Sample.reachable_free rfl "ana" Sample.roll
  obtain ⟨t, w', hrun, htransactions, -, -, hrecorded⟩ := (hfound account ha).2 hid
  have hgiven : ((Action.addTransaction "ana" Sample.roll).run Sample.free).1.toOption.map
      (fun t => (t.category, t.merchant)) = some (some 9, some "Baker") := by decide +kernel
  rw [hrun] at hgiven
  obtain ⟨hcategory, hmerchant⟩ := Prod.mk.inj (Option.some.inj hgiven)
  exact ⟨rfl, account, t, w', ha, hid, hrun, htransactions, hrecorded, hcategory, hmerchant⟩

end LedgerRules
