/-
# Editing a transaction

An edit stores the transaction twice at most: as it was asked for, and then with
what the rules propose for that.  What comes of it can be told from the edited
transaction alone.  Its fields are those of the update (`Transaction.EditedTo`),
and if the update asks for it the rules have their say on the targets that are
not set by hand (`Memory.reclassified`); if both are, they have none.

As identifiers are distinct each write replaces one transaction in its place,
and the second write replaces what the first one put there
(`Memory.Concludes.replaces`).  If the update does not ask for it, nothing has
changed that rules look at.
-/

import LedgerRules.Proofs.Program.Reachable
import LedgerRules.Proofs.Program.Recording
import LedgerRules.Proofs.Program.Settling

namespace LedgerRules

/-! ### Replacing a transaction -/

namespace Transaction

/-- Transactions with one in the place of that which has its identifier.  In a
store whose identifiers are distinct this is what an edit writes. -/
def replaceIn (t : Transaction) (ts : List Transaction) : List Transaction :=
  ts.map fun x => if x.id = t.id then t else x

variable {s t : Transaction} {ts : List Transaction}

/-- Replacing a transaction changes no identifier. -/
theorem map_id_replaceIn (t : Transaction) (ts : List Transaction) :
    (t.replaceIn ts).map (·.id) = ts.map (·.id) := by
  unfold replaceIn
  rw [List.map_map]
  refine List.map_congr_left fun x _ => ?_
  rw [Function.comp_apply]
  split
  · rename_i h
    exact h.symm
  · rfl

/-- What is put in the place of a transaction that is there is there. -/
theorem mem_replaceIn (h : t ∈ ts) (hid : s.id = t.id) : s ∈ s.replaceIn ts :=
  List.mem_map.2 ⟨t, h, if_pos hid.symm⟩

/-- What was put there is replaced again. -/
theorem replaceIn_replaceIn (hid : s.id = t.id) (ts : List Transaction) :
    s.replaceIn (t.replaceIn ts) = s.replaceIn ts := by
  unfold replaceIn
  rw [List.map_map]
  refine List.map_congr_left fun x _ => ?_
  rw [Function.comp_apply, hid]
  by_cases hx : x.id = t.id
  · rw [if_pos hx, if_pos rfl, if_pos hx]
  · rw [if_neg hx, if_neg hx]

end Transaction

namespace Memory

variable {m m' : Memory} {t t' : Transaction}

/-- Putting a transaction in its own place changes nothing. -/
theorem Distinct.replaceIn_self (hd : m.Distinct) (ht : t ∈ m.transactions) :
    t.replaceIn m.transactions = m.transactions := by
  refine (List.map_congr_left fun x hx => ?_).trans (List.map_id _)
  split
  · rename_i h
    exact (hd.eq_of_id hx ht h).symm
  · rfl

/-- A transaction that is put back replaces the one with its identifier. -/
theorem Distinct.transactions_putBack (hd : m.Distinct) (ht : t ∈ m.transactions)
    (hid : t'.id = t.id) (hu : t'.user = t.user) :
    (m.putBack t').transactions = t'.replaceIn m.transactions := by
  have hkey : ∀ x : Transaction, (x.id == t'.id && x.user == t'.user) = true → x.id = t'.id :=
    fun x hx => (Id.found_iff.1 hx).1
  refine (modifyFirst_eq_map _ hkey hd).trans (List.map_congr_left fun x hx => ?_)
  by_cases he : x.id = t'.id
  · obtain rfl := hd.eq_of_id hx ht (he.trans hid)
    rw [if_pos he, if_pos (Id.found_iff.2 ⟨he, hu.symm⟩)]
  · rw [if_neg he, if_neg fun h => he (hkey x h)]

/-- A grouped write to one transaction replaces it. -/
theorem Distinct.map_assign (hd : m.Distinct) (ht : t ∈ m.transactions)
    (category : Option Int64) (merchant : Option String) (now : Instant) :
    (m.transactions.map fun x =>
        if reaches t.user [t.id] x then x.assign category merchant now else x) =
      (t.assign category merchant now).replaceIn m.transactions := by
  refine List.map_congr_left fun x hx => ?_
  by_cases he : x.id = t.id
  · obtain rfl := hd.eq_of_id hx ht he
    rw [if_pos (reaches_iff.2 ⟨rfl, List.mem_singleton_self _⟩)]
    exact (if_pos rfl).symm
  · rw [if_neg fun h => he (List.mem_singleton.1 (reaches_iff.1 h).2)]
    exact (if_neg he).symm

/-! ### What the rules make of a transaction -/

/-- A transaction with what the active rules of a user propose for it and its
account, as far as its targets were not set by hand. -/
def reclassified (m : Memory) (user : String) (t : Transaction) : Transaction :=
  let o := Outcome.ofRules (m.activeRulesOf user)
    (t.facts ((m.account? user t.account).map Account.view))
  { t with
    category := if t.categoryManual then t.category else o.category.or t.category
    merchant := if t.merchantManual then t.merchant else o.merchant.or t.merchant }

/-- What the rules make of a transaction is what a grouped write of their
proposal makes of it, the time of the change aside. -/
theorem reclassified_eq (m : Memory) (user : String) (t : Transaction) :
    m.reclassified user t = t.assign (m.proposal user false t).category
      (m.proposal user false t).merchant t.updatedAt := by
  unfold reclassified proposal Action.bulkOutcome Outcome.withoutManual Transaction.assign
  cases t.categoryManual <;> cases t.merchantManual <;> rfl

/-- Rules have no say on what was set by hand as a whole. -/
theorem reclassified_of_fullyManual (m : Memory) (user : String) (h : t.fullyManual = true) :
    m.reclassified user t = t := by
  rw [reclassified_eq, proposal_of_fullyManual m user h]
  rfl

/-- The application of rules to a transaction replaces it by what they make of
it, if no write is made to fail. -/
theorem Classifies.replaces {r : Except Error Outcome} (hd : m.Distinct) (hf : m.failing = [])
    (ht : t ∈ m.transactions) (h : m.Classifies t.user t.id r m') :
    (∃ o, r = .ok o) ∧ ∃ s, (m.reclassified t.user t).SameButTime s ∧
      m'.transactions = s.replaceIn m.transactions := by
  have hfind := hd.transaction?_eq ht
  rw [reclassified_eq]
  cases h with
  | missing h => exact absurd (h.symm.trans hfind) nofun
  | silent h hp he =>
    obtain rfl := Option.some.inj (hfind.symm.trans h)
    obtain ⟨hc, hm⟩ := Prod.mk.inj (Outcome.isEmpty_iff.1 he)
    rw [hp, hc, hm]
    exact ⟨⟨_, rfl⟩, t, .refl t, (hd.replaceIn_self ht).symm⟩
  | refused _ _ _ hfail _ =>
    rw [hf] at hfail
    exact absurd hfail List.not_mem_nil
  | @written _ o h hp he hfail now later =>
    obtain rfl := Option.some.inj (hfind.symm.trans h)
    rw [hp]
    refine ⟨⟨_, rfl⟩, t.assign o.category o.merchant now, ⟨now, rfl⟩, ?_⟩
    rw [(sameButUsage_countAll _ _ _).transactions, assign_of_not_failing hfail]
    exact hd.map_assign ht _ _ now

/-- **An operation that has stored a transaction replaces it by what it
answers**, if no write is made to fail: the transaction as it was stored, or
what the rules make of it. -/
theorem Concludes.replaces {again : Bool} {r : Except Error Transaction} (hd : m.Distinct)
    (hf : m.failing = []) (ht : t ∈ m.transactions) (h : m.Concludes t.user t.id again r m') :
    ∃ s, r = .ok s ∧ (if again = true then m.reclassified t.user t else t).SameButTime s ∧
      m'.transactions = s.replaceIn m.transactions ∧ m'.accounts = m.accounts := by
  cases h with
  | refused _ h =>
    obtain ⟨⟨o, ho⟩, -⟩ := h.replaces hd hf ht
    cases ho
  | @classified _ o s' ha h hread =>
    obtain ⟨-, s, hs, hreplaced⟩ := h.replaces hd hf ht
    have hmem : s ∈ m'.transactions := by
      obtain ⟨at_, rfl⟩ := hs
      rw [hreplaced]
      exact Transaction.mem_replaceIn ht rfl
    have hd' : m'.Distinct := by
      refine hd.congr ?_
      rw [hreplaced, Transaction.map_id_replaceIn]
    -- What is read back is what was written.
    have hfind := hd'.transaction?_eq hmem
    have hsame : s' = s := by
      obtain ⟨at_, rfl⟩ := hs
      exact Option.some.inj (hread.symm.trans hfind)
    subst hsame
    rw [if_pos ha]
    exact ⟨s', rfl, hs, hreplaced, h.frame.1⟩
  | plain ha hread =>
    obtain rfl := Option.some.inj ((hd.transaction?_eq ht).symm.trans hread)
    rw [ha, if_neg Bool.false_ne_true]
    exact ⟨t, rfl, .refl t, (hd.replaceIn_self ht).symm, rfl⟩

/-- **An edit replaces the transaction once or twice**, and what it answers
stands in its place: the transaction as it was asked for, or what the rules make
of that. -/
theorem Edits.replaces {update : TransactionUpdate} {r : Except Error Transaction}
    (hd : m.Distinct) (hf : m.failing = []) (ht : t ∈ m.transactions)
    (h : m.Edits t.user t.id update r m') :
    ∃ now s, r = .ok s ∧ m'.transactions = s.replaceIn m.transactions ∧
      m'.accounts = m.accounts ∧
      (if update.reapplies = true
        then m.reclassified t.user { update.apply t with updatedAt := now }
        else { update.apply t with updatedAt := now }).SameButTime s := by
  cases h with
  | missing hno => exact absurd (hno.symm.trans (hd.transaction?_eq ht)) nofun
  | @stored _ old t' now _ hold hedit hend =>
    obtain rfl := Option.some.inj ((hd.transaction?_eq ht).symm.trans hold)
    have hid : t'.id = t.id := by rw [← hedit]; rfl
    have hu : t'.user = t.user := by rw [← hedit]; rfl
    have hput := hd.transactions_putBack ht hid hu
    have hd' : (m.putBack t').Distinct := by
      refine hd.congr ?_
      rw [hput, Transaction.map_id_replaceIn]
    have hmem : t' ∈ (m.putBack t').transactions := hput ▸ Transaction.mem_replaceIn ht hid
    rw [← hid, ← hu] at hend
    obtain ⟨s, rfl, hs, hreplaced, haccounts⟩ := hend.replaces hd' hf hmem
    have hsid : s.id = t'.id := by
      obtain ⟨at_, rfl⟩ := hs
      split <;> rfl
    rw [hput, Transaction.replaceIn_replaceIn hsid] at hreplaced
    refine ⟨now, s, rfl, hreplaced, haccounts, ?_⟩
    rw [hedit]
    cases hmanual : t'.fullyManual with
    | false => rwa [hmanual, Bool.not_false, Bool.and_true, hu] at hs
    | true =>
      rw [hmanual, Bool.not_true, Bool.and_false, if_neg Bool.false_ne_true] at hs
      rwa [reclassified_of_fullyManual _ _ hmanual, ite_self]

end Memory

/-! ### Edits -/

/-- A transaction with the fields that an update asks for, whenever it was
changed last.  What is not given stays.  A merchant is trimmed, and none if
nothing is left of it.  What is given is set by hand, but a blank merchant is
not; and nothing is that is handed back to the rules. -/
structure Transaction.EditedTo (t : Transaction) (u : TransactionUpdate) (t' : Transaction) :
    Prop where
  amount : t'.amount = u.amount.getD t.amount
  description : t'.description = u.description.or t.description
  date : t'.date = u.date.getD t.date
  category : t'.category = u.category.or t.category
  categoryManual : t'.categoryManual = true ↔
    u.releaseCategory = false ∧ (u.category.isSome = true ∨ t.categoryManual = true)
  merchantGiven : ∀ merchant, u.merchant = some merchant →
    t'.merchant = (if Text.trim merchant = "" then none else some (Text.trim merchant)) ∧
    (t'.merchantManual = true ↔ u.releaseMerchant = false ∧ Text.trim merchant ≠ "")
  merchantKept : u.merchant = none → t'.merchant = t.merchant ∧
    (t'.merchantManual = true ↔ u.releaseMerchant = false ∧ t.merchantManual = true)
  others : t' = { t with
    amount := t'.amount, description := t'.description, merchant := t'.merchant
    category := t'.category, date := t'.date, updatedAt := t'.updatedAt
    categoryManual := t'.categoryManual, merchantManual := t'.merchantManual }

namespace TransactionUpdate

variable {u : TransactionUpdate} {t : Transaction}

/-- A merchant that is given is trimmed, and none if it is blank. -/
theorem normalizeMerchant_some (merchant : String) : normalizeMerchant (some merchant) =
    if Text.trim merchant = "" then none else some (Text.trim merchant) := by
  unfold normalizeMerchant
  rw [Option.map_some, Option.filter_some]
  by_cases hblank : Text.trim merchant = "" <;> simp [hblank]

/-- What an update makes of a transaction is the transaction edited to it. -/
theorem editedTo_apply (u : TransactionUpdate) (t : Transaction) (now : Instant) :
    t.EditedTo u { u.apply t with updatedAt := now } where
  amount := rfl
  description := rfl
  date := rfl
  category := rfl
  categoryManual := by
    show ((u.category.isSome || t.categoryManual) && !u.releaseCategory) = true ↔ _
    rw [Bool.and_eq_true, Bool.or_eq_true, Bool.not_eq_true', and_comm]
  merchantGiven merchant hm := by
    unfold apply
    rw [hm]
    dsimp only
    rw [normalizeMerchant_some]
    refine ⟨rfl, ?_⟩
    rw [Bool.and_eq_true, Bool.not_eq_true', and_comm]
    by_cases hblank : Text.trim merchant = "" <;> simp [hblank]
  merchantKept hm := by
    unfold apply
    rw [hm]
    refine ⟨rfl, ?_⟩
    dsimp only
    rw [Bool.and_eq_true, Bool.not_eq_true', and_comm]
  others := rfl

/-- An update has the rules look at the transaction: it gives something that
they look at, or it hands a target back to them. -/
def AsksRules (u : TransactionUpdate) : Prop :=
  u.amount.isSome = true ∨ u.description.isSome = true ∨ u.merchant.isSome = true ∨
    u.releaseCategory = true ∨ u.releaseMerchant = true

/-- An update has the rules look at the transaction exactly where
`update_transaction` goes on to apply them. -/
theorem asksRules_iff : u.AsksRules ↔ u.reapplies = true := by
  unfold AsksRules reapplies changesRuleInputs
  simp only [Bool.or_eq_true, or_assoc]

/-- **An update that does not have the rules look again changes nothing that
they look at.** So to leave them alone is right. -/
theorem facts_apply (h : ¬u.AsksRules) (t : Transaction) (account : Option AccountView) :
    (u.apply t).facts account = t.facts account := by
  unfold AsksRules at h
  simp only [not_or, Option.not_isSome_iff_eq_none] at h
  obtain ⟨hamount, hdescription, hmerchant, -, -⟩ := h
  unfold Transaction.facts apply
  rw [hamount, hdescription, hmerchant]
  rfl

end TransactionUpdate

/-- **An edit does what the update and the rules say.** It answers the
transaction that is in the store afterwards, in the place of the one that was
edited; all others are what they were, and so are the accounts.  It has the
fields that the update asks for.  If the update gives something that rules look
at, or hands a target back to them, then the targets that are not set by hand
are those that the active rules propose for it, where they propose any; and if
it does not, the rules would see what they saw before.  When the transaction was
changed is left open. -/
theorem edit_does_what_update_and_rules_say {w : World Memory} (h : Reachable w)
    (hf : w.store.failing = []) {t : Transaction} (ht : t ∈ w.store.transactions)
    (update : TransactionUpdate) :
    ∃ t' s w', (Action.updateTransaction t.user t.id update).run w = (.ok s, w') ∧
      w'.store.transactions = s.replaceIn w.store.transactions ∧
      w'.store.accounts = w.store.accounts ∧ t.EditedTo update t' ∧
      (update.AsksRules → (w.store.reclassified t.user t').SameButTime s) ∧
      (¬update.AsksRules → t'.SameButTime s ∧
        ∀ account, s.facts account = t.facts account) := by
  obtain ⟨r, w', hrun, hr⟩ := (Action.updateTransaction_yields t.user t.id update w).exists_run
  obtain ⟨now, s, rfl, htransactions, haccounts, hs⟩ := hr.replaces h.distinct hf ht
  refine ⟨{ update.apply t with updatedAt := now }, s, w', hrun, htransactions, haccounts,
    update.editedTo_apply t now, fun hasks => ?_, fun hasks => ?_⟩
  · rwa [if_pos (TransactionUpdate.asksRules_iff.1 hasks)] at hs
  · rw [if_neg fun h => hasks (TransactionUpdate.asksRules_iff.2 h)] at hs
    refine ⟨hs, fun account => ?_⟩
    obtain ⟨at_, rfl⟩ := hs
    exact TransactionUpdate.facts_apply hasks t account

/-- The cake is made a tart, and the rule of the sample gives it a category and
a merchant; before, it had none by hand that would stand in the way. -/
theorem cake_becomes_classified_tart :
    Sample.free.store.failing = [] ∧ Sample.cake ∈ Sample.free.store.transactions ∧
      ∃ t' s w', (Action.updateTransaction "ana" Sample.cake.id Sample.tart).run Sample.free =
          (.ok s, w') ∧
        w'.store.transactions = s.replaceIn Sample.free.store.transactions ∧
        t'.description = some "bakery tart" ∧ t'.category = none ∧
        (Sample.free.store.reclassified "ana" t').SameButTime s ∧
        s.category = some 9 ∧ s.merchant = some "Baker" := by
  have hcake : Sample.cake ∈ Sample.free.store.transactions := by decide +kernel
  obtain ⟨t', s, w', hrun, htransactions, -, hedit, hasks, -⟩ :=
    edit_does_what_update_and_rules_say Sample.reachable_free rfl hcake Sample.tart
  have hgiven : ((Action.updateTransaction "ana" Sample.cake.id Sample.tart).run
      Sample.free).1.toOption.map (fun s => (s.category, s.merchant)) =
        some (some 9, some "Baker") := by decide +kernel
  rw [show (Action.updateTransaction "ana" Sample.cake.id Sample.tart).run Sample.free =
    (.ok s, w') from hrun] at hgiven
  obtain ⟨hcategory, hmerchant⟩ := Prod.mk.inj (Option.some.inj hgiven)
  exact ⟨rfl, hcake, t', s, w', hrun, htransactions, hedit.description, hedit.category,
    hasks (.inr (.inl rfl)), hcategory, hmerchant⟩

end LedgerRules
