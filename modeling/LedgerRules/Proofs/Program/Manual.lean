/-
# What was set by hand stays

A category or a merchant that is marked as set by hand outlives every operation,
save an edit of just that target of just that transaction, and a bulk run that
was told to touch what was set by hand.  The two targets are protected in the
same way (`Target`): rules do not propose a marked target, an edit of something
else keeps it, and a grouped write leaves a target alone that is not proposed.
A grouped write itself looks at no mark; that it only reaches transactions which
are to get its pair is what `Reapplies.transactions` is for.
-/

import LedgerRules.Proofs.Program.Reachable

namespace LedgerRules

/-- A target of a transaction, and how its mark protects it.  Category and
merchant are two targets, and what holds of both is shown once. -/
structure Target (β : Type) where
  value : Transaction → Option β
  manual : Transaction → Bool
  proposed : Outcome → Option β
  /-- Whether an update gives the target or releases it. -/
  edits : TransactionUpdate → Bool
  value_assign : ∀ (t : Transaction) (o : Outcome) (now : Instant),
    value (t.assign o.category o.merchant now) = (proposed o).or (value t)
  manual_assign : ∀ (t : Transaction) (o : Outcome) (now : Instant),
    manual (t.assign o.category o.merchant now) = manual t
  withheld : ∀ (m : Memory) (user : String) (t : Transaction), manual t = true →
    proposed (m.proposal user false t) = none
  value_apply : ∀ (u : TransactionUpdate) (t : Transaction) (now : Instant), edits u = false →
    value { u.apply t with updatedAt := now } = value t
  manual_apply : ∀ (u : TransactionUpdate) (t : Transaction) (now : Instant), edits u = false →
    manual { u.apply t with updatedAt := now } = manual t

namespace Target

/-- The category of a transaction, with its mark and its part of a proposal. -/
def category : Target Int64 where
  value := (·.category)
  manual := (·.categoryManual)
  proposed := (·.category)
  edits u := u.category.isSome || u.releaseCategory
  value_assign _ _ _ := rfl
  manual_assign _ _ _ := rfl
  withheld m user _ h := m.proposal_category user h
  value_apply u t now h := by
    rw [Bool.or_eq_false_iff, Option.isSome_eq_false_iff, Option.isNone_iff_eq_none] at h
    simp [TransactionUpdate.apply, h.1]
  manual_apply u t now h := by
    rw [Bool.or_eq_false_iff, Option.isSome_eq_false_iff, Option.isNone_iff_eq_none] at h
    simp [TransactionUpdate.apply, h.1, h.2]

/-- The merchant of a transaction, with its mark and its part of a proposal. -/
def merchant : Target String where
  value := (·.merchant)
  manual := (·.merchantManual)
  proposed := (·.merchant)
  edits u := u.merchant.isSome || u.releaseMerchant
  value_assign _ _ _ := rfl
  manual_assign _ _ _ := rfl
  withheld m user _ h := m.proposal_merchant user h
  value_apply u t now h := by
    rw [Bool.or_eq_false_iff, Option.isSome_eq_false_iff, Option.isNone_iff_eq_none] at h
    simp [TransactionUpdate.apply, h.1]
  manual_apply u t now h := by
    rw [Bool.or_eq_false_iff, Option.isSome_eq_false_iff, Option.isNone_iff_eq_none] at h
    simp [TransactionUpdate.apply, h.1, h.2]

/-- A transaction still has the target it had, and its mark.  Other parts of it
may have changed. -/
def SameIn {β : Type} (target : Target β) (t t' : Transaction) : Prop :=
  t'.id = t.id ∧ t'.user = t.user ∧ target.value t' = target.value t ∧ target.manual t' = true

end Target

namespace Turn

/-- The operation edits a target of a transaction: it gives the target or
releases it.  Other edits of the same transaction do not count. -/
def Edits {β : Type} (e : Turn) (target : Target β) (t : Transaction) : Prop :=
  e.user = t.user ∧ ∃ u, e.operation = .updateTransaction t.id u ∧ target.edits u = true

/-- The operation makes a bulk run that touches what the user of a transaction
set by hand, asked for as such or as the backfill of a change. -/
def Overrides (e : Turn) (t : Transaction) : Prop :=
  e.user = t.user ∧ ∃ ids, e.bulk? = some (ids, true)

end Turn

variable {β : Type} {target : Target β} {e : Turn} {m m' : Memory} {t t' : Transaction}

/-- A target that is not proposed stays as it is. -/
theorem Target.sameIn_assign {o : Outcome} (hm : target.manual t = true)
    (ho : target.proposed o = none) (now : Instant) :
    target.SameIn t (t.assign o.category o.merchant now) := by
  refine ⟨rfl, rfl, ?_, ?_⟩
  · rw [target.value_assign, ho, Option.none_or]
  · rw [target.manual_assign, hm]

/-- **One step of an operation keeps what was set by hand.** There is an edit of
the target itself, and a run that is told to include such transactions; nothing
else writes to it. -/
theorem Memory.Changed.sameIn
    (h : m.Changed e.backfillIncludesManual e.user e.operation t t') (hm : target.manual t = true)
    (he : ¬e.Edits target t) (hb : ¬e.Overrides t) : target.SameIn t t' := by
  cases h with
  | kept => exact ⟨rfl, rfl, rfl, hm⟩
  | @edited update hop hu now =>
    have hno : target.edits update = false :=
      Bool.eq_false_iff.2 fun hed => he ⟨hu.symm, update, hop, hed⟩
    refine ⟨rfl, rfl, target.value_apply update t now hno, ?_⟩
    rw [target.manual_apply update t now hno, hm]
  | classified _ _ now => exact target.sameIn_assign hm (target.withheld m _ t hm) now
  | @reapplied ids includeManual hop ho now =>
    cases includeManual with
    | true => exact absurd ⟨ho.owned.symm, ids, hop⟩ hb
    | false => exact target.sameIn_assign hm (target.withheld m _ t hm) now

/-- A whole operation keeps what was set by hand. -/
theorem Turn.sameIn_after {w : World Memory} (hd : w.store.Distinct) (ht : t ∈ w.store.transactions)
    (hm : target.manual t = true) (he : ¬e.Edits target t) (hb : ¬e.Overrides t) :
    ∃ t', (e.after w).store.transaction? t.user t.id = some t' ∧ target.SameIn t t' := by
  have hkept : (e.after w).store.Distinct ∧
      ∃ t' ∈ (e.after w).store.transactions, target.SameIn t t' := by
    refine e.after_induction (I := fun m => m.Distinct ∧ ∃ t' ∈ m.transactions, target.SameIn t t')
      ⟨hd, t, ht, rfl, rfl, rfl, hm⟩ fun m m' hs hI => ?_
    obtain ⟨hd, s, hs', hid, hu, hv, hms⟩ := hI
    obtain ⟨s', hs'', hc⟩ := hs.exists_changed hd hs'
    -- The exceptions speak of the owner and the identifier, which no step changes.
    have he' : ¬e.Edits target s := by
      unfold Turn.Edits
      rw [hid, hu]
      exact he
    have hb' : ¬e.Overrides s := by
      unfold Turn.Overrides
      rw [hu]
      exact hb
    obtain ⟨hid', hu', hv', hms'⟩ := hc.sameIn hms he' hb'
    exact ⟨hs.distinct hd, s', hs'', hid'.trans hid, hu'.trans hu, hv'.trans hv, hms'⟩
  obtain ⟨hd', t', ht', hs⟩ := hkept
  refine ⟨t', ?_, hs⟩
  rw [← hs.1, ← hs.2.1]
  exact hd'.transaction?_eq ht'

/-- **What was set by hand outlives every operation of a run**, save an edit of
that very target and a bulk run that was told to touch what was set by hand. -/
theorem manual_targets_outlive {w : World Memory} (h : Reachable w) (e : Turn) {t : Transaction}
    (ht : t ∈ w.store.transactions) (hb : ¬e.Overrides t) :
    (t.categoryManual = true → ¬e.Edits Target.category t →
      ∃ t', (e.after w).store.transaction? t.user t.id = some t' ∧
        t'.category = t.category ∧ t'.categoryManual = true) ∧
    (t.merchantManual = true → ¬e.Edits Target.merchant t →
      ∃ t', (e.after w).store.transaction? t.user t.id = some t' ∧
        t'.merchant = t.merchant ∧ t'.merchantManual = true) := by
  constructor
  · intro hm he
    obtain ⟨t', hfind, -, -, hsame⟩ := Turn.sameIn_after h.distinct ht hm he hb
    exact ⟨t', hfind, hsame⟩
  · intro hm he
    obtain ⟨t', hfind, -, -, hsame⟩ := Turn.sameIn_after h.distinct ht hm he hb
    exact ⟨t', hfind, hsame⟩

/-- A bulk run whose rule gives another category leaves the one that was set by
hand. -/
theorem bread_outlives_bulk :
    Sample.bread ∈ Sample.world.store.transactions ∧ Sample.bread.categoryManual = true ∧
      ∃ t', (Sample.bulk.after Sample.world).store.transaction? "ana" ⟨1#128⟩ = some t' ∧
        t'.category = some 7 ∧ t'.categoryManual = true := by
  have ht : Sample.bread ∈ Sample.world.store.transactions := by decide +kernel
  have hb : ¬Sample.bulk.Overrides Sample.bread := by
    rintro ⟨-, ids, h⟩
    cases h
  have he : ¬Sample.bulk.Edits Target.category Sample.bread := by
    rintro ⟨-, u, h, -⟩
    cases h
  exact ⟨ht, rfl, (manual_targets_outlive Sample.reachable_world Sample.bulk ht hb).1 rfl he⟩

end LedgerRules
