/-
# What rules settle, whichever way they are applied

A store *settles* transactions when each of them gets what the rules of their
user proposed for it at first, and each rule is credited for what it proposed
(`Memory.Settles`).  When the transactions were changed and when a rule was last
applied is left open, and so is which writes did it.

The application of rules to one transaction settles that one
(`Classifies.settles`), and a bulk run settles all that it looks at
(`Reapplies.settles`), if no write is made to fail.  Settling some transactions
and then others settles both (`Settles.append`): what is proposed for a
transaction depends on no other one, and not on how often rules were applied.
-/

import LedgerRules.Proofs.Program.RuleIds
import Mathlib.Algebra.BigOperators.Group.List.Basic

namespace LedgerRules

/-! ### Equal but for times -/

/-- Two transactions differ at most in when they were changed.  That is all in
which one bulk run and many single applications can differ. -/
def Transaction.SameButTime (t t' : Transaction) : Prop := ∃ at_, t' = { t with updatedAt := at_ }

/-- Two rules differ at most in when they were applied.  How often they were is
the same. -/
def Rule.SameButTime (r r' : Rule) : Prop := ∃ last, r' = { r with lastAppliedAt := last }

/-- A transaction is the same as itself. -/
theorem Transaction.SameButTime.refl (t : Transaction) : t.SameButTime t := ⟨t.updatedAt, rfl⟩

/-- Two transactions that came of one are the same. -/
theorem Transaction.SameButTime.join {s t t' : Transaction} (h : s.SameButTime t)
    (h' : s.SameButTime t') : t.SameButTime t' := by
  obtain ⟨at_, rfl⟩ := h
  obtain ⟨at', rfl⟩ := h'
  exact ⟨at', rfl⟩

/-- Two rules that were credited the same are the same. -/
theorem Rule.Credited.join {times more : Id → Nat} {r s s' : Rule} (h : r.Credited times s)
    (h' : r.Credited more s') (he : times r.id = more r.id) : s.SameButTime s' := by
  obtain ⟨last, rfl⟩ := h
  obtain ⟨last', rfl⟩ := h'
  refine ⟨last', ?_⟩
  rw [he]

/-- Two stores differ at most in times, and in the writes that were attempted.
Operations cannot tell them apart but by these times. -/
structure Memory.SameButTime (m m' : Memory) : Prop where
  accounts : m'.accounts = m.accounts
  failing : m'.failing = m.failing
  transactions : List.Forall₂ Transaction.SameButTime m.transactions m'.transactions
  rules : List.Forall₂ Rule.SameButTime m.rules m'.rules

/-! ### Proposals do not depend on usage -/

/-- A rule as if it had never been applied.  What rules propose is a matter of
these. -/
def Rule.unused (r : Rule) : Rule := { r with timesApplied := 0, lastAppliedAt := none }

/-- Rules that differ in usage alone are the same but for it. -/
theorem Rule.SameButUsage.unused_eq {r r' : Rule} (h : r.SameButUsage r') :
    r'.unused = r.unused := by
  rw [h]
  rfl

/-- No rule is looked at for how often it was applied. -/
theorem Outcome.extend_unused (facts : Facts) (rules : List Rule) (o : Outcome) :
    o.extend facts (rules.map Rule.unused) = o.extend facts rules := by
  induction rules generalizing o with
  | nil => rfl
  | cons r rules ih =>
    rw [List.map_cons]
    unfold extend
    rw [ih, ih]
    rfl

namespace Memory

variable {m m' m₁ m₂ : Memory} {user : String} {ids ids' : List Id} {t t' : Transaction}

/-- The active rules of a user, their usage aside, depend on the rules, their
usage aside: it has no part in their order. -/
theorem map_unused_activeRulesOf (m : Memory) (user : String) :
    (m.activeRulesOf user).map Rule.unused =
      ((m.rules.map Rule.unused).filter fun r => r.user == user && r.active).mergeSort
        Rule.precedes := by
  unfold activeRulesOf
  rw [List.map_mergeSort (r := Rule.precedes) (s := Rule.precedes) (f := Rule.unused)
      fun _ _ _ _ => rfl,
    List.filter_map]
  rfl

/-- **What is proposed depends on the rules, but not on how often they were
applied**, and on the accounts.  So it stays the same while a run counts
applications. -/
theorem proposal_congr (ha : m'.accounts = m.accounts)
    (hr : List.Forall₂ Rule.SameButUsage m.rules m'.rules) (user : String) (includeManual : Bool)
    (t : Transaction) : m'.proposal user includeManual t = m.proposal user includeManual t := by
  have hrules : (m'.activeRulesOf user).map Rule.unused =
    (m.activeRulesOf user).map Rule.unused := by
    rw [map_unused_activeRulesOf, map_unused_activeRulesOf,
      map_eq_of_forall₂ (fun _ _ h => h.unused_eq) hr]
  have hacc : m'.account? user t.account = m.account? user t.account := by
    unfold account?
    rw [ha]
  unfold proposal Action.bulkOutcome Outcome.ofRules
  rw [hacc, ← Outcome.extend_unused, hrules, Outcome.extend_unused]

/-- Nor does it depend on when the transaction was changed. -/
theorem proposal_sameButTime (h : t.SameButTime t') (m : Memory) (user : String)
    (includeManual : Bool) :
    m.proposal user includeManual t' = m.proposal user includeManual t := by
  obtain ⟨at_, rfl⟩ := h
  rfl

/-! ### Settling -/

/-- A transaction with what is proposed for it, if it is among those to be
settled.  It is the common end of writing by groups and of writing one by one,
whatever the order. -/
def settled (m : Memory) (user : String) (ids : List Id) (t : Transaction) : Transaction :=
  if reaches user ids t then
    t.assign (m.proposal user false t).category (m.proposal user false t).merchant t.updatedAt
  else t

/-- How often a rule is credited for what is proposed for the transactions to be
settled. -/
def credits (m : Memory) (user : String) (ids : List Id) (rule : Id) : Nat :=
  (m.transactions.map fun t =>
    if reaches user ids t then (m.proposal user false t).credits rule else 0).sum

/-- The store after some transactions were settled, each with what was proposed
for it at the beginning, and the rules credited for it.  Proposals do not change
while this goes on, so it does not matter in how many steps it is done. -/
structure Settles (m : Memory) (user : String) (ids : List Id) (m' : Memory) : Prop where
  accounts : m'.accounts = m.accounts
  failing : m'.failing = m.failing
  transactions : List.Forall₂ (fun t t' => (m.settled user ids t).SameButTime t')
    m.transactions m'.transactions
  rules : List.Forall₂ (Rule.Credited (m.credits user ids)) m.rules m'.rules

/-- A transaction that is not among those to be settled stays. -/
theorem settled_of_not_reaches (h : reaches user ids t = false) : m.settled user ids t = t := by
  unfold settled
  rw [h]
  rfl

/-- One that is among them gets what is proposed for it. -/
theorem settled_of_reaches (h : reaches user ids t = true) : m.settled user ids t =
    t.assign (m.proposal user false t).category (m.proposal user false t).merchant t.updatedAt := by
  unfold settled
  rw [h]
  rfl

/-- What has no proposal is settled as it is. -/
theorem settled_of_isEmpty (h : (m.proposal user false t).isEmpty = true) (ids : List Id) :
    m.settled user ids t = t := by
  obtain ⟨hc, hm⟩ := Prod.mk.inj (Outcome.isEmpty_iff.1 h)
  unfold settled
  rw [hc, hm]
  exact ite_self t

/-- Settling changes neither whom a transaction belongs to nor its identifier. -/
theorem reaches_settled (m : Memory) (user user' : String) (ids ids' : List Id) (t : Transaction) :
    reaches user' ids' (m.settled user ids t) = reaches user' ids' t := by
  unfold settled
  split <;> rfl

/-- Nor does the time of a change matter to what is reached. -/
theorem reaches_sameButTime (h : t.SameButTime t') (user : String) (ids : List Id) :
    reaches user ids t' = reaches user ids t := by
  obtain ⟨at_, rfl⟩ := h
  rfl

/-- Nothing is settled and nobody credited where no transaction is reached. -/
theorem Settles.nil (m : Memory) (user : String) : m.Settles user [] m where
  accounts := rfl
  failing := rfl
  transactions := List.forall₂_same.2 fun t _ => by
    have hr : reaches user [] t = false := Bool.and_false _
    rw [settled_of_not_reaches hr]
    exact .refl t
  rules := List.forall₂_same.2 fun r _ => Rule.credited_self <| by
    have hr : ∀ t : Transaction, reaches user [] t = false := fun t => Bool.and_false _
    simp [credits, hr]

namespace Settles

/-- Settling keeps the identifiers of transactions distinct, -/
theorem distinct (h : m.Settles user ids m') (hd : m.Distinct) : m'.Distinct := by
  refine hd.congr (map_eq_of_forall₂ (fun t t' ht => ?_) h.transactions)
  obtain ⟨at_, rfl⟩ := ht
  unfold settled
  split <;> rfl

/-- and those of rules. -/
theorem distinctRules (h : m.Settles user ids m') (hd : m.DistinctRules) : m'.DistinctRules := by
  unfold DistinctRules at hd ⊢
  rwa [map_eq_of_forall₂ (fun _ _ hr => hr.id_eq) h.rules]

/-- What is proposed stays the same. -/
theorem proposal_eq (h : m.Settles user ids m') (user' : String) (includeManual : Bool)
    (t : Transaction) : m'.proposal user' includeManual t = m.proposal user' includeManual t :=
  proposal_congr h.accounts (h.rules.imp fun _ _ hr => hr.sameButUsage) user' includeManual t

/-- A transaction that is not settled yet stays as it is, but for times. -/
theorem sameButTime_of_not_reaches (h : (m.settled user ids t).SameButTime t')
    (hr : reaches user ids t = false) : t.SameButTime t' := by
  rwa [settled_of_not_reaches hr] at h

/-- What others are credited for is what it was. -/
theorem credits_eq (h : m.Settles user ids m') (hdis : ∀ id ∈ ids, id ∉ ids') (rule : Id) :
    m'.credits user ids' rule = m.credits user ids' rule := by
  unfold credits
  refine congrArg List.sum (map_eq_of_forall₂ (fun t t' ht => ?_) h.transactions)
  rw [reaches_sameButTime ht, reaches_settled]
  cases hr : reaches user ids t with
  | true => rw [not_reaches_of_disjoint hdis hr]; rfl
  | false =>
    have hsame := sameButTime_of_not_reaches ht hr
    rw [proposal_sameButTime hsame, h.proposal_eq]

/-- What both lists are credited for adds up. -/
theorem credits_append (h : m.Settles user ids m₁) (hdis : ∀ id ∈ ids, id ∉ ids') (rule : Id) :
    m.credits user (ids ++ ids') rule = m.credits user ids rule + m₁.credits user ids' rule := by
  rw [h.credits_eq hdis]
  unfold credits
  rw [← List.sum_map_add]
  refine congrArg List.sum (List.map_congr_left fun t _ => ?_)
  rw [reaches_append]
  cases hr : reaches user ids t with
  | false => simp
  | true => simp [not_reaches_of_disjoint hdis hr]

/-- A transaction is settled by the first step or by the second, or it stays. -/
theorem settled_append (h : m.Settles user ids m₁) (hdis : ∀ id ∈ ids, id ∉ ids')
    {t t₁ t₂ : Transaction} (ht : (m.settled user ids t).SameButTime t₁)
    (ht' : (m₁.settled user ids' t₁).SameButTime t₂) :
    (m.settled user (ids ++ ids') t).SameButTime t₂ := by
  have hr₁ : reaches user ids' t₁ = reaches user ids' t := by
    rw [reaches_sameButTime ht, reaches_settled]
  have happ := reaches_append user ids ids' t
  cases hr : reaches user ids t with
  | true =>
    rw [settled_of_not_reaches (hr₁.trans (not_reaches_of_disjoint hdis hr))] at ht'
    rw [settled_of_reaches hr] at ht
    rw [hr, Bool.true_or] at happ
    rw [settled_of_reaches happ]
    obtain ⟨at₁, rfl⟩ := ht
    obtain ⟨at₂, rfl⟩ := ht'
    exact ⟨at₂, rfl⟩
  | false =>
    have hsame := sameButTime_of_not_reaches ht hr
    have hp := (h.proposal_eq user false t₁).trans (proposal_sameButTime hsame m user false)
    rw [hr, Bool.false_or] at happ
    unfold settled at ht' ⊢
    rw [hr₁, hp] at ht'
    rw [happ]
    obtain ⟨at₁, rfl⟩ := hsame
    obtain ⟨at₂, rfl⟩ := ht'
    split <;> exact ⟨at₂, rfl⟩

/-- **Settling some transactions and then others settles both.** This is the
induction step from single applications to a bulk run. -/
theorem append (h : m.Settles user ids m₁) (h' : m₁.Settles user ids' m₂)
    (hdis : ∀ id ∈ ids, id ∉ ids') : m.Settles user (ids ++ ids') m₂ where
  accounts := h'.accounts.trans h.accounts
  failing := h'.failing.trans h.failing
  transactions := by
    refine forall₂_trans (fun t t₁ t₂ ht ht' => ?_) h.transactions h'.transactions
    exact h.settled_append hdis ht ht'
  rules := forall₂_trans
    (fun r _ _ hr hr' => (hr.trans hr').congr (h.credits_append hdis r.id).symm)
    h.rules h'.rules

end Settles

/-- A usage that is counted after some writes is counted for the rules as they
were. -/
theorem credited_countAll_of_rules (hr : m.DistinctRules) (h : m'.rules = m.rules) (usage : Usage)
    (now : Instant) :
    List.Forall₂ (Rule.Credited usage.total) m.rules (m'.countAll usage now).rules := by
  have hr' : m'.DistinctRules := by
    unfold DistinctRules at hr ⊢
    rwa [h]
  have hc := credited_countAll hr' usage now
  rwa [h] at hc

/-! ### One transaction -/

/-- Where identifiers are distinct, the one of a transaction reaches it alone. -/
theorem Distinct.filter_reaches (hd : m.Distinct) (ht : t ∈ m.transactions) :
    m.transactions.filter (reaches t.user [t.id]) = [t] :=
  List.perm_singleton.1 <| hd.filter_reaches_perm (List.singleton_sublist.2 ht) fun s hs => by
    rw [List.mem_singleton.1 hs]

/-- What one transaction is settled with credits the rules of its own proposal. -/
theorem Distinct.credits_singleton (hd : m.Distinct) (ht : t ∈ m.transactions) (rule : Id) :
    m.credits t.user [t.id] rule = (m.proposal t.user false t).credits rule := by
  unfold credits
  rw [← sum_map_filter, hd.filter_reaches ht, List.map_singleton, List.sum_singleton]

/-- A transaction without a proposal is settled as it is. -/
theorem Distinct.settles_of_isEmpty (hd : m.Distinct) (ht : t ∈ m.transactions)
    (he : (m.proposal t.user false t).isEmpty = true) : m.Settles t.user [t.id] m where
  accounts := rfl
  failing := rfl
  transactions := List.forall₂_same.2 fun x hx => by
    cases hreach : reaches t.user [t.id] x with
    | false =>
      rw [settled_of_not_reaches hreach]
      exact .refl x
    | true =>
      obtain rfl := hd.eq_of_id hx ht (List.mem_singleton.1 (reaches_iff.1 hreach).2)
      rw [settled_of_isEmpty he]
      exact .refl x
  rules := List.forall₂_same.2 fun x _ => Rule.credited_self <|
    (hd.credits_singleton ht x.id).trans (Outcome.credits_of_isEmpty he x.id)

/-- One that is written and counted is settled. -/
theorem Distinct.settles_of_accepted (hd : m.Distinct) (hr : m.DistinctRules)
    (ht : t ∈ m.transactions) {o : Outcome} (ho : m.proposal t.user false t = o)
    (he : o.isEmpty = false) (hf : o.pair ∉ m.failing) (now later : Instant) :
    m.Settles t.user [t.id] ((m.assign t.user o.category o.merchant [t.id] now).2.countAll
      (o.usage (m.transactions.countP (reaches t.user [t.id]))) later) := by
  obtain ⟨hframe, hrules, hfail⟩ := assign_frame m t.user ⟨o.category, o.merchant, [t.id], []⟩ now
  have hone : m.transactions.countP (reaches t.user [t.id]) = 1 := by
    rw [List.countP_eq_length_filter, hd.filter_reaches ht, List.length_singleton]
  rw [hone]
  refine ⟨(sameButUsage_countAll _ _ _).accounts.trans hframe,
    (sameButUsage_countAll _ _ _).failing.trans hfail, ?_, ?_⟩
  · rw [(sameButUsage_countAll _ _ _).transactions, assign_of_not_failing hf]
    refine List.forall₂_map_right_iff.2 (List.forall₂_same.2 fun x hx => ?_)
    split
    · rename_i hreach
      obtain rfl := hd.eq_of_id hx ht (List.mem_singleton.1 (reaches_iff.1 hreach).2)
      rw [settled_of_reaches hreach, ho]
      exact ⟨now, rfl⟩
    · rename_i hreach
      rw [settled_of_not_reaches (Bool.eq_false_iff.2 hreach)]
      exact .refl x
  · have husage : ∀ rule, (o.usage 1).total rule = m.credits t.user [t.id] rule := by
      intro rule
      rw [hd.credits_singleton ht, ho, Outcome.credits, he]
      exact (Usage.total_addAll rule _ []).trans (Nat.zero_add _)
    refine (credited_countAll_of_rules hr hrules _ later).imp fun x _ hx => ?_
    exact hx.congr (husage x.id)

/-- **The application of rules to a transaction settles it**, if no write is
made to fail.  Applied one by one, transactions are settled in any order. -/
theorem Classifies.settles {r : Except Error Outcome} (hd : m.Distinct) (hr : m.DistinctRules)
    (hf : m.failing = []) (ht : t ∈ m.transactions) (h : m.Classifies t.user t.id r m') :
    (∃ o, r = .ok o) ∧ m.Settles t.user [t.id] m' := by
  have hfind := hd.transaction?_eq ht
  cases h with
  | missing h => exact absurd (h.symm.trans hfind) nofun
  | silent h hp he =>
    obtain rfl := Option.some.inj (h.symm.trans hfind)
    exact ⟨⟨_, rfl⟩, hd.settles_of_isEmpty ht (hp ▸ he)⟩
  | refused _ _ _ hfail _ =>
    rw [hf] at hfail
    exact absurd hfail List.not_mem_nil
  | written h hp he hfail now later =>
    obtain rfl := Option.some.inj (h.symm.trans hfind)
    exact ⟨⟨_, rfl⟩, hd.settles_of_accepted hr ht hp he hfail now later⟩

/-! ### Bulk runs -/

/-- The totals of the groups whose writes go through. -/
theorem total_usageOf (m : Memory) (groups : List Group) (usage : Usage) (rule : Id) :
    (m.usageOf groups usage).total rule =
      usage.total rule + ((groups.filter m.accepts).map (·.usage.total rule)).sum := by
  unfold usageOf
  induction groups.filter m.accepts generalizing usage with
  | nil => rfl
  | cons g groups ih =>
    rw [List.foldl_cons, ih, Usage.total_merge, List.map_cons, List.sum_cons, Nat.add_assoc]

/-- The transactions that a bulk run looks at. -/
def eligibleIds (m : Memory) (user : String) (ids : Option (List Id)) : List Id :=
  (m.eligibleOf user ids false).map (·.id)

/-- The identifiers that a bulk run looks at reach exactly the transactions that
it looks at. -/
theorem Distinct.reaches_eligibleIds (hd : m.Distinct) {ids : Option (List Id)}
    (ht : t ∈ m.transactions) :
    reaches user (m.eligibleIds user ids) t = true ↔ t ∈ m.eligibleOf user ids false := by
  rw [reaches_iff]
  constructor
  · rintro ⟨-, hid⟩
    obtain ⟨s, hs, he⟩ := List.mem_map.1 hid
    rwa [hd.eq_of_id (mem_eligibleOf.1 hs).1 ht he] at hs
  · intro h
    exact ⟨(mem_eligibleOf.1 h).2.1, List.mem_map_of_mem h⟩

/-- If no write is made to fail, the groups count what the transactions credit. -/
theorem Distinct.total_bulkGroups (hd : m.Distinct) (hf : m.failing = []) (user : String)
    (ids : Option (List Id)) (rule : Id) :
    (m.usageOf (m.bulkGroups user ids false) []).total rule =
      m.credits user (m.eligibleIds user ids) rule := by
  have hall : ∀ g ∈ m.bulkGroups user ids false, m.accepts g = true := fun g _ =>
    accepts_iff.2 (hf ▸ List.not_mem_nil)
  have hfilter : m.transactions.filter (reaches user (m.eligibleIds user ids)) =
      m.eligibleOf user ids false := by
    refine List.filter_congr fun t ht => ?_
    rw [Bool.eq_iff_iff, hd.reaches_eligibleIds ht]
    exact List.mem_filter.trans (and_iff_right ht)
  unfold credits
  rw [total_usageOf, List.filter_eq_self.2 hall, ← sum_map_filter, hfilter, Usage.total_nil,
    Nat.zero_add]
  unfold bulkGroups
  rw [Group.sum_total_ofOutcomes, List.map_map]
  rfl

/-- What a bulk run makes of a transaction settles it. -/
theorem Distinct.settled_of_reapplied (hd : m.Distinct) (hf : m.failing = [])
    (ht : t ∈ m.transactions) {ids : Option (List Id)} (h : m.Reapplied user ids false t t') :
    (m.settled user (m.eligibleIds user ids) t).SameButTime t' := by
  have hreach : reaches user (m.eligibleIds user ids) t = true ↔
      t ∈ m.eligibleOf user ids false := hd.reaches_eligibleIds ht
  cases h with
  | kept hno =>
    cases he : (m.proposal user false t).isEmpty with
    | true =>
      rw [settled_of_isEmpty he]
      exact .refl t
    | false =>
      have hn : reaches user (m.eligibleIds user ids) t = false := by
        refine Bool.eq_false_iff.2 fun hy => hno ?_
        obtain ⟨-, hu, hm, hl⟩ := mem_eligibleOf.1 (hreach.1 hy)
        exact ⟨hu, hl, hm, he, hf ▸ List.not_mem_nil⟩
      rw [settled_of_not_reaches hn]
      exact .refl t
  | assigned ho now =>
    rw [settled_of_reaches (hreach.2 (mem_eligibleOf.2 ⟨ht, ho.owned, ho.free, ho.listed⟩))]
    exact ⟨now, rfl⟩

/-- What a bulk run counts for a rule is what the transactions credit. -/
theorem Reapplies.credited {ids : Option (List Id)} {r : Except Error BulkSummary}
    (hd : m.Distinct) (hr : m.DistinctRules) (hf : m.failing = [])
    (h : m.Reapplies user ids false r m') :
    List.Forall₂ (Rule.Credited (m.credits user (m.eligibleIds user ids))) m.rules m'.rules := by
  have htotal := hd.total_bulkGroups hf user ids
  cases h with
  | idle h =>
    refine List.forall₂_same.2 fun x _ => Rule.credited_self ?_
    have hzero : ∀ t, (m.proposal user false t).credits x.id = 0 := fun t =>
      Outcome.credits_of_isEmpty (by rw [proposal_of_no_rules h]; rfl) x.id
    simp [credits, hzero]
  | done _ hw later =>
    refine (credited_countAll_of_rules hr hw.frame.2.1 _ later).imp fun x x' hx => ?_
    exact hx.congr (htotal x.id)

/-- **A bulk run settles all the transactions that it looks at**, if no write is
made to fail.  As there is one settled store, it is where any order of single
applications leads. -/
theorem Reapplies.settles {ids : Option (List Id)} {r : Except Error BulkSummary} (hd : m.Distinct)
    (hr : m.DistinctRules) (hf : m.failing = []) (h : m.Reapplies user ids false r m') :
    m.Settles user (m.eligibleIds user ids) m' where
  accounts := h.frame.1
  failing := h.frame.2.1
  transactions := by
    have hall := (List.forall₂_and_left _ _).2 ⟨fun _ ht => ht, h.transactions hd⟩
    exact hall.imp fun t t' ht => hd.settled_of_reapplied hf ht.1 ht.2
  rules := h.credited hd hr hf

end Memory
end LedgerRules
