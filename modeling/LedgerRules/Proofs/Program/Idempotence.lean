/-
# A bulk run done again

A second bulk run looks at a store that the first one wrote to.  What rules
propose for a transaction can differ then for one reason only: a rule sets the
merchant, and a rule looks at it.  Where none does the one, or none the other, a
transaction is proposed again what it was given
(`Memory.NoFeedback.proposal_assign`).  So the second run finds the same groups,
counts what the first one counted and writes what is there already; a write that
failed fails again (`bulk_run_is_idempotent`).
-/

import LedgerRules.Proofs.Outcome.ByValue
import LedgerRules.Proofs.Program.LedgerForm
import LedgerRules.Proofs.Program.Settling

namespace LedgerRules

/-- To write the same targets again changes nothing but the time. -/
theorem Transaction.sameButTime_assign (t : Transaction) (category : Option Int64)
    (merchant : Option String) (now later : Instant) :
    (t.assign category merchant now).SameButTime
      ((t.assign category merchant now).assign category merchant later) := by
  refine ⟨later, ?_⟩
  unfold assign
  cases category <;> cases merchant <;> rfl

namespace Memory

variable {m m' m₁ m₂ : Memory} {user : String} {ids : Option (List Id)} {includeManual : Bool}

/-- The active rules of a user do not feed themselves: none of them looks at the
merchant, or none of them sets it.  The category, the other target, is no field
of a condition. -/
def NoFeedback (m : Memory) (user : String) : Prop :=
  (∀ r ∈ m.activeRulesOf user, ∀ c ∈ r.conditions.items, c.field ≠ .text .merchant) ∨
    ∀ r ∈ m.activeRulesOf user, r.merchant = none

/-- **What was written is proposed again**, if rules do not feed themselves.
Nothing that was written is looked at by a condition. -/
theorem NoFeedback.proposal_assign (h : m.NoFeedback user) (includeManual : Bool) (t : Transaction)
    (now : Instant) :
    m.proposal user includeManual (t.assign (m.proposal user includeManual t).category
      (m.proposal user includeManual t).merchant now) = m.proposal user includeManual t := by
  rcases h with hreads | hsets
  · -- The facts differ in the merchant, and no rule looks at it.
    generalize (m.proposal user includeManual t).category = category
    generalize (m.proposal user includeManual t).merchant = merchant
    unfold proposal Action.bulkOutcome Outcome.ofRules
    have hrules : List.Forall₂ Rule.SameValue (m.activeRulesOf user) (m.activeRulesOf user) :=
      List.forall₂_same.2 fun r _ => .refl r
    have hagree : ∀ r ∈ m.activeRulesOf user, r.active = true → ∀ c ∈ r.conditions.items,
        (t.facts ((m.account? user t.account).map Account.view)).AgreeOn
          ((t.assign category merchant now).facts ((m.account? user t.account).map Account.view))
          c.field :=
      fun r hr _ c hc => Facts.agreeOn_of_ne_merchant (hreads r hr c hc) _ _
    have haccount : (t.assign category merchant now).account = t.account := rfl
    rw [haccount, Outcome.extend_congr hagree hrules]
    rfl
  · -- No merchant is written, so the facts are the same.
    have hnone : (m.proposal user includeManual t).merchant = none := by
      refine Option.eq_none_iff_forall_ne_some.2 fun merchant hm => ?_
      obtain ⟨r, hr, hrm⟩ := merchant_proposal hm
      rw [hsets r hr] at hrm
      cases hrm
    rw [hnone]
    rfl

/-- A transaction that looks to a bulk run over one store as another does to one
over another store: it is looked at likewise, and the same is proposed.  The
times of last changes play no part in it. -/
structure SeenAlike (m m' : Memory) (user : String) (includeManual : Bool) (t t' : Transaction) :
    Prop where
  id : t'.id = t.id
  owner : t'.user = t.user
  manual : t'.fullyManual = t.fullyManual
  proposal : m'.proposal user includeManual t' = m.proposal user includeManual t

/-- What a bulk run answers depends on the active rules, on the writes that
fail, and on how it sees the transactions. -/
theorem bulkSummary_congr (hf : m'.failing = m.failing)
    (hr : List.Forall₂ Rule.SameButUsage m.rules m'.rules)
    (ht : List.Forall₂ (m.SeenAlike m' user includeManual) m.transactions m'.transactions)
    (ids : Option (List Id)) :
    (m'.activeRulesOf user).length = (m.activeRulesOf user).length ∧
      m'.bulkSummary user ids includeManual = m.bulkSummary user ids includeManual := by
  have hrules : (m'.activeRulesOf user).length = (m.activeRulesOf user).length := by
    rw [length_activeRulesOf, length_activeRulesOf]
    refine (countP_of_forall₂ (fun r r' h => ?_) hr).symm
    rw [h]
  have heligible : List.Forall₂ (m.SeenAlike m' user includeManual)
      (m.eligibleOf user ids includeManual) (m'.eligibleOf user ids includeManual) :=
    filter_of_forall₂ (fun t t' h => by rw [h.id, h.owner, h.manual]) ht
  have hgroups : m'.bulkGroups user ids includeManual = m.bulkGroups user ids includeManual :=
    congrArg Group.ofOutcomes
      (map_eq_of_forall₂ (fun t t' h => by rw [h.id, h.proposal]) heligible)
  refine ⟨hrules, ?_⟩
  unfold bulkSummary
  rw [hrules, hgroups, heligible.length_eq]
  refine tally_congr hf (fun ids => (countP_of_forall₂ (fun t t' h => ?_) ht).symm) _ _
  unfold reaches
  rw [h.id, h.owner]

/-! ### The second run -/

/-- After a bulk run its transactions look to another one as they did. -/
theorem Reapplies.seenAlike {r : Except Error BulkSummary} (hd : m.Distinct)
    (hno : m.NoFeedback user) (h : m.Reapplies user ids includeManual r m₁) :
    List.Forall₂ (m.SeenAlike m₁ user includeManual) m.transactions m₁.transactions := by
  obtain ⟨ha, -, hr⟩ := h.frame
  refine (h.transactions hd).imp fun t t₁ ht => ?_
  have hsame := m.proposal_congr ha hr user includeManual t₁
  cases ht with
  | kept _ => exact ⟨rfl, rfl, rfl, hsame⟩
  | assigned _ now => exact ⟨rfl, rfl, rfl, hsame.trans (hno.proposal_assign includeManual t now)⟩

/-- **The second run answers what the first one did.** It looks at the same
transactions, proposes the same and fails in the same writes. -/
theorem Reapplies.answer_again {r r' : Except Error BulkSummary} (hd : m.Distinct)
    (hno : m.NoFeedback user) (h : m.Reapplies user ids includeManual r m₁)
    (h' : m₁.Reapplies user ids includeManual r' m₂) : r' = r := by
  obtain ⟨-, hf, hr⟩ := h.frame
  obtain ⟨hrules, hsummary⟩ := bulkSummary_congr hf hr (h.seenAlike hd hno) ids
  have hnil : m₁.activeRulesOf user = [] ↔ m.activeRulesOf user = [] := by
    rw [← List.length_eq_zero_iff, hrules, List.length_eq_zero_iff]
  cases h' with
  | idle h₁ =>
    cases h with
    | idle _ => rfl
    | done h₀ _ _ => exact absurd (hnil.1 h₁) h₀
  | done h₁ _ _ =>
    cases h with
    | idle h₀ => exact absurd (hnil.2 h₀) h₁
    | done _ _ _ => rw [hsummary]

/-- **What the first run wrote the second one writes again**, and nothing else. -/
theorem Reapplied.again {t t₁ t₂ : Transaction} (hno : m.NoFeedback user)
    (hf : m₁.failing = m.failing)
    (hp : ∀ s, m₁.proposal user includeManual s = m.proposal user includeManual s)
    (h : m.Reapplied user ids includeManual t t₁)
    (h' : m₁.Reapplied user ids includeManual t₁ t₂) : t₁.SameButTime t₂ := by
  cases h' with
  | kept _ => exact .refl t₁
  | assigned ho later =>
    cases h with
    | kept hnot =>
      -- The first run had written it as well.
      refine absurd ⟨ho.owned, ho.listed, ho.free, ?_, ?_⟩ hnot
      · exact hp t ▸ ho.proposes
      · exact hf ▸ hp t ▸ ho.accepted
    | assigned _ now =>
      rw [(hp _).trans (hno.proposal_assign includeManual t now)]
      exact t.sameButTime_assign _ _ now later

/-- So all transactions are as they were but for the times of their last
changes. -/
theorem Reapplies.sameButTime_again {r r' : Except Error BulkSummary} (hd : m.Distinct)
    (hno : m.NoFeedback user) (h : m.Reapplies user ids includeManual r m₁)
    (h' : m₁.Reapplies user ids includeManual r' m₂) :
    List.Forall₂ Transaction.SameButTime m₁.transactions m₂.transactions := by
  obtain ⟨ha, hf, hr⟩ := h.frame
  have hfirst := h.transactions hd
  have hd₁ : m₁.Distinct :=
    hd.congr (map_eq_of_forall₂ (fun _ _ hs => hs.id) (h.seenAlike hd hno))
  -- Every transaction after the first run came of one that was there before it.
  have hboth := (List.forall₂_and_left _ _).2 ⟨exists_of_forall₂ hfirst.flip, h'.transactions hd₁⟩
  refine hboth.imp fun t₁ t₂ ⟨⟨t, _, ht⟩, ht'⟩ => ?_
  exact Reapplied.again hno hf (m.proposal_congr ha hr user includeManual) ht ht'

end Memory

/-- **A bulk run done again changes nothing**, if the active rules of the user
do not feed themselves: no rule looks at the merchant, or no rule sets one.
Both runs have the same answer, whichever writes fail, and after the second one
all transactions are as they were after the first, but for the times of their
last changes. -/
theorem bulk_run_is_idempotent {w : World Memory} (h : Reachable w) (user : String)
    (hrules : (∀ r ∈ w.store.rules, r.user = user → r.active = true →
        ∀ c ∈ r.conditions.items, c.field ≠ .text .merchant) ∨
      ∀ r ∈ w.store.rules, r.user = user → r.active = true → r.merchant = none)
    (ids : Option (List Id)) (includeManual : Bool) :
    ∃ summary w₁ w₂, (Action.applyToExisting user ids includeManual).run w = (.ok summary, w₁) ∧
      (Action.applyToExisting user ids includeManual).run w₁ = (.ok summary, w₂) ∧
      List.Forall₂ Transaction.SameButTime w₁.store.transactions w₂.store.transactions := by
  have hno : w.store.NoFeedback user := by
    refine hrules.imp (fun hreads r hr => ?_) fun hsets r hr => ?_
    · obtain ⟨hmem, hu, ha⟩ := Memory.mem_activeRulesOf.1 hr
      exact hreads r hmem hu ha
    · obtain ⟨hmem, hu, ha⟩ := Memory.mem_activeRulesOf.1 hr
      exact hsets r hmem hu ha
  obtain ⟨r, w₁, hrun, hfirst⟩ :=
    (Action.applyToExisting_yields user ids includeManual w).exists_run
  obtain ⟨r', w₂, hrun', hsecond⟩ :=
    (Action.applyToExisting_yields user ids includeManual w₁).exists_run
  obtain rfl := hfirst.answer_again h.distinct hno hsecond
  obtain ⟨summary, rfl⟩ := hfirst.ok
  exact ⟨summary, w₁, w₂, hrun, hrun', hfirst.sameButTime_again h.distinct hno hsecond⟩

/-- The rule of the sample looks at the description alone.  Each run writes one
purchase. -/
theorem bread_is_written_alike_twice :
    (∀ r ∈ Sample.world.store.rules, r.user = "ana" → r.active = true →
        ∀ c ∈ r.conditions.items, c.field ≠ .text .merchant) ∧
      ∃ summary w₁ w₂, (Action.applyToExisting "ana" none false).run Sample.world =
          (.ok summary, w₁) ∧
        (Action.applyToExisting "ana" none false).run w₁ = (.ok summary, w₂) ∧
        summary.updated = 1 ∧
        List.Forall₂ Transaction.SameButTime w₁.store.transactions w₂.store.transactions := by
  have hreads : ∀ r ∈ Sample.world.store.rules, r.user = "ana" → r.active = true →
      ∀ c ∈ r.conditions.items, c.field ≠ .text .merchant := by decide +kernel
  obtain ⟨summary, w₁, w₂, hfirst, hsecond, hsame⟩ :=
    bulk_run_is_idempotent Sample.reachable_world "ana" (.inl hreads) none false
  refine ⟨hreads, summary, w₁, w₂, hfirst, hsecond, ?_, hsame⟩
  have hupdated : ((Action.applyToExisting "ana" none false).run Sample.world).1.toOption.map
      (·.updated) = some 1 := by decide +kernel
  rw [hfirst] at hupdated
  exact Option.some.inj hupdated

end LedgerRules
