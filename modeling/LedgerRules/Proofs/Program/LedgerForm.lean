/-
# Stored transactions are well formed

A transaction is marked as set by hand only where something is set, its merchant
is trimmed, and its account is there and belongs to the same user.

Accounts are never taken out of a store, so an account that was found when a
transaction was entered stays.  A request marks what it sets, and an edit with a
blank merchant takes the mark away together with the merchant.  Rules write no
mark, but they write merchants: those are proposed by stored rules, and so they
are trimmed because rules are well formed (`Reachable.rulesWellFormed`).  The
two invariants are therefore carried along a run together.
-/

import LedgerRules.Proofs.Program.RuleForm

namespace LedgerRules

/-! ### Where proposed merchants come from -/

namespace Outcome

variable {o : Outcome} {rules : List Rule} {merchant : String}

/-- A merchant that a rule fills in was there before, or it is the rule's own. -/
theorem merchant_fill {rule : Rule} (h : (o.fill rule).merchant = some merchant) :
    o.merchant = some merchant ∨ rule.merchant = some merchant := by
  unfold fill at h
  dsimp only at h
  split at h
  · rename_i hrule
    exact .inr (hrule.trans h)
  · split at h <;> exact .inl h

/-- A merchant that is proposed was there before, or it is the one of a rule. -/
theorem merchant_extend {facts : Facts} (h : (o.extend facts rules).merchant = some merchant) :
    o.merchant = some merchant ∨ ∃ r ∈ rules, r.merchant = some merchant := by
  induction rules generalizing o with
  | nil => exact .inl h
  | cons rule rules ih =>
    have hrest : (∃ r ∈ rules, r.merchant = some merchant) →
        ∃ r ∈ rule :: rules, r.merchant = some merchant :=
      fun ⟨r, hr, hm⟩ => ⟨r, List.mem_cons_of_mem _ hr, hm⟩
    unfold extend at h
    split at h
    · exact .inl h
    · split at h
      · rcases ih h with hfill | hr
        · exact (merchant_fill hfill).imp_right fun hm => ⟨rule, List.mem_cons_self, hm⟩
        · exact .inr (hrest hr)
      · exact (ih h).imp_right hrest

/-- Taking out what was set by hand brings in no merchant. -/
theorem merchant_withoutManual {categoryManual merchantManual : Bool}
    (h : (o.withoutManual categoryManual merchantManual).merchant = some merchant) :
    o.merchant = some merchant := by
  cases merchantManual with
  | true => cases h
  | false => exact h

end Outcome

/-- A merchant that rules propose for a transaction is the one of an active rule
of its user. -/
theorem Memory.merchant_proposal {m : Memory} {user : String} {includeManual : Bool}
    {t : Transaction} {merchant : String}
    (h : (m.proposal user includeManual t).merchant = some merchant) :
    ∃ r ∈ m.activeRulesOf user, r.merchant = some merchant := by
  have hrules : (Outcome.ofRules (m.activeRulesOf user)
      (t.facts ((m.account? user t.account).map Account.view))).merchant = some merchant := by
    unfold proposal Action.bulkOutcome at h
    cases includeManual with
    | true => exact h
    | false => exact Outcome.merchant_withoutManual h
  rcases Outcome.merchant_extend hrules with hnone | hr
  · cases hnone
  · exact hr

/-! ### Transactions -/

/-- A transaction on an account of its user, with a target wherever one counts
as set by hand, and with a trimmed merchant if it has one. -/
structure Transaction.WellFormed (accounts : List Account) (t : Transaction) : Prop where
  account : ∃ a ∈ accounts, a.id = t.account ∧ a.user = t.user
  categoryGiven : t.categoryManual = true → t.category.isSome = true
  merchantGiven : t.merchantManual = true → t.merchant.isSome = true
  merchant : ∀ m, t.merchant = some m → Text.Trimmed m

namespace Transaction

variable {accounts accounts' : List Account} {t : Transaction}

/-- More accounts leave a transaction well formed. -/
theorem WellFormed.mono (h : t.WellFormed accounts) (hsub : accounts ⊆ accounts') :
    t.WellFormed accounts' :=
  let ⟨a, ha, hid⟩ := h.account
  ⟨⟨a, hsub ha, hid⟩, h.categoryGiven, h.merchantGiven, h.merchant⟩

/-- An edit keeps a transaction well formed, whichever of its parts are given. -/
theorem WellFormed.edit (h : t.WellFormed accounts) (update : TransactionUpdate) (now : Instant) :
    WellFormed accounts { update.apply t with updatedAt := now } where
  account := h.account
  categoryGiven hmanual := by
    have hgiven : update.category.isSome = true ∨ t.categoryManual = true :=
      Bool.or_eq_true_iff.1 (Bool.and_eq_true_iff.1 hmanual).1
    show (update.category.or t.category).isSome = true
    rw [Option.isSome_or, Bool.or_eq_true_iff]
    exact hgiven.imp_right h.categoryGiven
  merchantGiven hmanual := by
    have hgiven := (Bool.and_eq_true_iff.1 hmanual).1
    unfold TransactionUpdate.apply
    cases hm : update.merchant with
    | none =>
      rw [hm] at hgiven
      exact h.merchantGiven hgiven
    | some s =>
      rw [hm] at hgiven
      exact hgiven
  merchant m hmerchant := by
    unfold TransactionUpdate.apply at hmerchant
    cases hm : update.merchant with
    | none =>
      rw [hm] at hmerchant
      exact h.merchant m hmerchant
    | some s =>
      rw [hm] at hmerchant
      have hkept : normalizeMerchant (some s) = some m := hmerchant
      exact trimmed_of_normalizeMerchant hkept

/-- So does writing targets, if the merchant among them is trimmed. -/
theorem WellFormed.assign (h : t.WellFormed accounts) (category : Option Int64)
    {merchant : Option String} (hm : ∀ m, merchant = some m → Text.Trimmed m) (now : Instant) :
    (t.assign category merchant now).WellFormed accounts where
  account := h.account
  categoryGiven hmanual := by
    show (category.or t.category).isSome = true
    rw [Option.isSome_or, h.categoryGiven hmanual, Bool.or_true]
  merchantGiven hmanual := by
    show (merchant.or t.merchant).isSome = true
    rw [Option.isSome_or, h.merchantGiven hmanual, Bool.or_true]
  merchant m hmerchant := by
    rcases Option.or_eq_some_iff.1 hmerchant with hm' | ⟨-, ht⟩
    · exact hm m hm'
    · exact h.merchant m ht

end Transaction

namespace Memory

variable {backfillIncludesManual : Bool} {user : String} {op : Operation} {m m' : Memory}
  {t t' : Transaction}

/-- A transaction that is entered is well formed. -/
theorem Entered.wellFormed (h : m.Entered user op t) : t.WellFormed m.accounts := by
  cases h with
  | @mk new account id today now ha hid =>
    have hmatch := List.find?_some ha
    have hfound := Id.found_iff.1 hmatch
    exact
      { account := ⟨account, List.mem_of_find?_eq_some ha, rfl, hfound.2⟩
        categoryGiven := fun hmanual => hmanual
        merchantGiven := fun hmanual => (Bool.and_eq_true_iff.1 hmanual).2
        merchant := fun _ hm => trimmed_of_normalizeMerchant hm }

/-- A transaction that a step changes stays well formed, if the rules are. -/
theorem Changed.wellFormed (h : m.Changed backfillIncludesManual user op t t')
    (hr : m.RulesWellFormed) (ht : t.WellFormed m.accounts) : t'.WellFormed m.accounts := by
  have hproposed : ∀ includeManual merchant,
      (m.proposal user includeManual t).merchant = some merchant → Text.Trimmed merchant := by
    intro includeManual merchant hm
    obtain ⟨r, hmem, hrm⟩ := merchant_proposal hm
    exact (hr r (mem_activeRulesOf.1 hmem).1).merchant merchant hrm
  cases h with
  | kept => exact ht
  | edited _ _ now => exact ht.edit _ now
  | classified _ _ now => exact ht.assign _ (hproposed false) now
  | reapplied _ _ now => exact ht.assign _ (hproposed _) now

/-- No step takes an account out. -/
theorem Step.accounts_subset (h : Step backfillIncludesManual user op m m') :
    m.accounts ⊆ m'.accounts := by
  cases h with
  | enroll _ => exact List.subset_append_left _ _
  | classify _ h => exact h.frame.1 ▸ List.Subset.refl _
  | bulk _ h => exact h.frame.1 ▸ List.Subset.refl _
  | _ => exact List.Subset.refl _

/-- All transactions of a store are well formed, and no two have one
identifier.  Together with the form of rules this is kept by every step, also by
those of operations that fail. -/
structure LedgerWellFormed (m : Memory) : Prop where
  distinct : m.Distinct
  transactions : ∀ t ∈ m.transactions, t.WellFormed m.accounts

/-- **Every step keeps a ledger well formed** whose rules are.  The rules matter
because their merchants are written to transactions. -/
theorem Step.ledgerWellFormed (h : Step backfillIncludesManual user op m m')
    (hr : m.RulesWellFormed) (hl : m.LedgerWellFormed) : m'.LedgerWellFormed where
  distinct := h.distinct hl.distinct
  transactions t' ht' := by
    refine Transaction.WellFormed.mono ?_ h.accounts_subset
    rcases h.transactions hl.distinct with hall | ⟨t, hin, hm'⟩
    · exact forall_of_forall₂ (fun _ _ hc ht => hc.wellFormed hr ht) hall hl.transactions t' ht'
    · rw [hm', List.mem_append, List.mem_singleton] at ht'
      rcases ht' with ht' | rfl
      · exact hl.transactions t' ht'
      · exact hin.wellFormed

end Memory

/-- **The transactions of a store that a run leads to are well formed**, whether
the operations of the run succeeded, failed or failed in part, and no two of
them have one identifier. -/
theorem stored_transactions_are_wellFormed {w : World Memory} (h : Reachable w) :
    w.store.Distinct ∧ ∀ t ∈ w.store.transactions, t.WellFormed w.store.accounts := by
  have hboth : w.store.RulesWellFormed ∧ w.store.LedgerWellFormed := by
    refine h.induction (I := fun m => m.RulesWellFormed ∧ m.LedgerWellFormed) (fun _ => ?_)
      (fun m failing hm => ?_) fun _ _ _ m m' hs hm => ?_
    · exact ⟨List.forall_mem_nil _, ⟨List.nodup_nil, List.forall_mem_nil _⟩⟩
    · exact ⟨hm.1, ⟨hm.2.distinct, hm.2.transactions⟩⟩
    · exact ⟨hs.rulesWellFormed hm.1, hs.ledgerWellFormed hm.1 hm.2⟩
  exact ⟨hboth.2.distinct, hboth.2.transactions⟩

namespace Sample

/-- A bulk run over everything, where no write fails and what was set by hand
does not count. -/
def overrule : Turn := ⟨"ana", .applyToExisting none true, false⟩

end Sample

/-- The bread keeps the mark on its category, and gets the merchant of the rule. -/
theorem overruled_bread_is_wellFormed :
    Reachable (Sample.overrule.after Sample.free) ∧
      ∃ t ∈ (Sample.overrule.after Sample.free).store.transactions,
        t.id = Sample.bread.id ∧ t.categoryManual = true ∧ t.category = some 9 ∧
          t.merchant = some "Baker" ∧
          t.WellFormed (Sample.overrule.after Sample.free).store.accounts := by
  have hreach := Sample.reachable_free.next Sample.overrule
  have hbread : ∃ t ∈ (Sample.overrule.after Sample.free).store.transactions,
      t.id = Sample.bread.id ∧ t.categoryManual = true ∧ t.category = some 9 ∧
        t.merchant = some "Baker" := by
    decide +kernel
  obtain ⟨t, ht, hid, hmanual, hc, hm⟩ := hbread
  exact ⟨hreach, t, ht, hid, hmanual, hc, hm,
    (stored_transactions_are_wellFormed hreach).2 t ht⟩

end LedgerRules
