/-
# A bulk run is one application after the other

A bulk run that leaves alone what was set by hand looks accounts up once, groups
what is proposed and counts usage per group.  Applying the rules to the
transactions one at a time, in any order, writes each on its own and counts
after each.  If no write is made to fail, both settle the same transactions, so
they leave the same store but for times (`bulk_run_eq_one_by_one`).
-/

import LedgerRules.Proofs.Program.Settling

namespace LedgerRules

/-- Applies the rules to one transaction after the other, and stops at the first
failure.  A bulk run with all writes going through does the same by groups. -/
def Action.applyEach (user : String) : List Id → Action Unit
  | [] => return ()
  | id :: rest => do
    let _ ← applyToTransaction user id
    applyEach user rest

namespace Memory

/-- An order in which the transactions of a user that a restriction covers can
be taken: each comes once, and only one that was set by hand as a whole may be
left out.  The restriction itself may name a transaction several times. -/
structure Orders (m : Memory) (user : String) (ids : Option (List Id)) (order : List Id) :
    Prop where
  nodup : order.Nodup
  covered : ∀ id ∈ order, ∃ t ∈ m.transactions, t.id = id ∧ t.user = user ∧
    ∀ l, ids = some l → id ∈ l
  complete : ∀ t ∈ m.eligibleOf user ids false, t.id ∈ order

variable {m m₁ m₂ : Memory} {user : String} {ids : Option (List Id)} {order : List Id}
  {t : Transaction}

/-- An order reaches what a bulk run looks at, and otherwise only what has no
proposal. -/
theorem Orders.reaches_eq (ho : m.Orders user ids order) (hd : m.Distinct)
    (ht : t ∈ m.transactions) :
    reaches user order t = reaches user (m.eligibleIds user ids) t ∨
      m.proposal user false t = .nothing := by
  cases hm : t.fullyManual with
  | true => exact .inr (m.proposal_of_fullyManual user hm)
  | false =>
    left
    rw [Bool.eq_iff_iff, hd.reaches_eligibleIds ht]
    constructor
    · intro hr
      obtain ⟨hu, hid⟩ := reaches_iff.1 hr
      obtain ⟨s, hs, he, -, hl⟩ := ho.covered t.id hid
      exact mem_eligibleOf.2 ⟨ht, hu, .inr hm, hl⟩
    · intro he
      exact reaches_iff.2 ⟨(mem_eligibleOf.1 he).2.1, ho.complete t he⟩

/-- Stores that come of settling what a bulk run looks at, and what an order
names, are the same but for times. -/
theorem Orders.sameButTime (ho : m.Orders user ids order) (hd : m.Distinct)
    (h₁ : m.Settles user (m.eligibleIds user ids) m₁) (h₂ : m.Settles user order m₂) :
    m₁.SameButTime m₂ where
  accounts := h₂.accounts.trans h₁.accounts.symm
  failing := h₂.failing.trans h₁.failing.symm
  transactions := by
    have hall := (List.forall₂_and_left _ _).2 ⟨fun _ ht => ht, h₂.transactions⟩
    refine forall₂_trans (fun t₁ t t₂ ht₁ ht₂ => ?_) h₁.transactions.flip hall
    have hsettled : m.settled user order t = m.settled user (m.eligibleIds user ids) t := by
      rcases ho.reaches_eq hd ht₂.1 with he | hn
      · unfold settled
        rw [he]
      · have hemp : (m.proposal user false t).isEmpty = true := by
          rw [hn]
          rfl
        rw [settled_of_isEmpty hemp, settled_of_isEmpty hemp]
    exact Transaction.SameButTime.join ht₁ (hsettled ▸ ht₂.2)
  rules := by
    have hcredits : ∀ rule, m.credits user (m.eligibleIds user ids) rule =
        m.credits user order rule := by
      intro rule
      refine congrArg List.sum (List.map_congr_left fun t ht => ?_)
      rcases ho.reaches_eq hd ht with he | hn
      · rw [he]
      · have hzero : (m.proposal user false t).credits rule = 0 := by
          rw [hn]
          rfl
        rw [hzero, ite_self, ite_self]
    refine forall₂_trans (fun r₁ r r₂ hr₁ hr₂ => ?_) h₁.rules.flip h₂.rules
    exact Rule.Credited.join hr₁ hr₂ (hcredits r.id)

end Memory

/-- One application after the other settles every transaction that is named. -/
theorem Action.applyEach_yields {user : String} {order : List Id} {w : World Memory}
    (hd : w.store.Distinct) (hr : w.store.DistinctRules) (hf : w.store.failing = [])
    (hnd : order.Nodup)
    (hown : ∀ id ∈ order, ∃ t ∈ w.store.transactions, t.id = id ∧ t.user = user) :
    (applyEach user order).Yields w fun r w' =>
      r = .ok () ∧ w.store.Settles user order w'.store := by
  induction order generalizing w with
  | nil => exact ⟨rfl, .nil _ user⟩
  | cons id order ih =>
    unfold applyEach
    obtain ⟨hid, hrest⟩ := List.nodup_cons.1 hnd
    obtain ⟨t, ht, rfl, rfl⟩ := hown id (List.mem_cons_self ..)
    rw [yields_bind]
    refine (applyToTransaction_yields t.user t.id w).mono fun r w₁ hclass => ?_
    obtain ⟨⟨o, rfl⟩, hone⟩ := hclass.settles hd hr hf ht
    rw [goes_ok]
    -- The later transactions are still there, and still those of the user.
    have hown₁ : ∀ id ∈ order, ∃ s ∈ w₁.store.transactions, s.id = id ∧ s.user = t.user := by
      intro id hmem
      obtain ⟨s, hs, rfl, hu⟩ := hown id (List.mem_cons_of_mem _ hmem)
      obtain ⟨s', hs', at_, rfl⟩ := exists_of_forall₂ hone.transactions s hs
      refine ⟨_, hs', ?_⟩
      unfold Memory.settled
      split <;> exact ⟨rfl, hu⟩
    refine (ih (hone.distinct hd) (hone.distinctRules hr) (hone.failing.trans hf) hrest
      hown₁).mono fun r w₂ hothers => ?_
    refine ⟨hothers.1, hone.append hothers.2 fun i hi => ?_⟩
    rwa [List.mem_singleton.1 hi]

/-- **A bulk run does what applying the rules to its transactions one by one
does**, in any order: neither fails, and but for times they leave the same
accounts, the same transactions and rules that were applied equally often. -/
theorem bulk_run_eq_one_by_one {w : World Memory} (h : Reachable w) (hf : w.store.failing = [])
    (user : String) (ids : Option (List Id)) {order : List Id}
    (ho : w.store.Orders user ids order) :
    ∃ summary w₁ w₂, (Action.applyToExisting user ids false).run w = (.ok summary, w₁) ∧
      (Action.applyEach user order).run w = (.ok (), w₂) ∧ w₁.store.SameButTime w₂.store := by
  have hd := h.distinct
  have hr := h.distinctRules
  have hbulk := Action.applyToExisting_yields user ids false w
  have heach := Action.applyEach_yields hd hr hf ho.nodup fun id hid =>
    let ⟨t, ht, he, hu, _⟩ := ho.covered id hid
    ⟨t, ht, he, hu⟩
  unfold Action.Yields at hbulk heach
  generalize (Action.applyToExisting user ids false).run w = p at hbulk ⊢
  generalize (Action.applyEach user order).run w = q at heach ⊢
  obtain ⟨r, w₁⟩ := p
  obtain ⟨r', w₂⟩ := q
  obtain ⟨summary, rfl⟩ := hbulk.ok
  obtain ⟨rfl, hsettles⟩ := heach
  exact ⟨summary, w₁, w₂, rfl, rfl, ho.sameButTime hd (hbulk.settles hd hr hf) hsettles⟩

namespace Sample

/-- The cake before the bread is such an order. -/
theorem orders_free : free.store.Orders "ana" none [⟨2#128⟩, ⟨1#128⟩] where
  nodup := by decide
  covered id hid := by
    have hin : cake ∈ free.store.transactions ∧ bread ∈ free.store.transactions := by
      decide +kernel
    rcases List.mem_cons.1 hid with rfl | hid
    · exact ⟨cake, hin.1, rfl, rfl, nofun⟩
    · obtain rfl := List.mem_singleton.1 hid
      exact ⟨bread, hin.2, rfl, rfl, nofun⟩
  complete := by decide +kernel

end Sample

/-- The bread keeps the category it was given by hand, the cake gets one: a bulk
run does both at once, in two writes, and the two applications do it the other
way round. -/
theorem cake_before_bread :
    Reachable Sample.free ∧ Sample.free.store.failing = [] ∧
      Sample.free.store.Orders "ana" none [⟨2#128⟩, ⟨1#128⟩] ∧
      ∃ summary w₁ w₂,
        (Action.applyToExisting "ana" none false).run Sample.free = (.ok summary, w₁) ∧
        (Action.applyEach "ana" [⟨2#128⟩, ⟨1#128⟩]).run Sample.free = (.ok (), w₂) ∧
        w₁.store.SameButTime w₂.store :=
  ⟨Sample.reachable_free, rfl, Sample.orders_free,
    bulk_run_eq_one_by_one Sample.reachable_free rfl "ana" none Sample.orders_free⟩

end LedgerRules
