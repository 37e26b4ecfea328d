/-
# Bulk runs, transaction by transaction

A bulk run looks accounts up once, groups what is proposed and writes group by
group.  What comes of it can be told without any of that: a transaction gets
what the active rules propose for it and its own account, if its user made the
run, the run covers it, and the pair that is proposed can be written; every
other transaction stays as it is (`applyToExisting_pointwise`).  A write that
fails is a matter of the transactions with that pair alone.
-/

import LedgerRules.Proofs.Program.Reachable

namespace LedgerRules

/-- **A bulk run is what it does to each transaction**, and it never fails.  A
transaction that it overwrites gets the targets that are proposed, the others
stay; nothing else of the store changes, but how often and when rules were
applied. -/
theorem applyToExisting_pointwise {w : World Memory} (h : Reachable w) (user : String)
    (ids : Option (List Id)) (includeManual : Bool) :
    ∃ summary w', (Action.applyToExisting user ids includeManual).run w = (.ok summary, w') ∧
      w'.store.accounts = w.store.accounts ∧
      List.Forall₂ Rule.SameButUsage w.store.rules w'.store.rules ∧
      List.Forall₂ (fun t t' =>
        (w.store.Overwrites user ids includeManual t → t' = { t with
          category := (w.store.proposal user includeManual t).category.or t.category
          merchant := (w.store.proposal user includeManual t).merchant.or t.merchant
          updatedAt := t'.updatedAt }) ∧
        (¬w.store.Overwrites user ids includeManual t → t' = t))
        w.store.transactions w'.store.transactions := by
  have hr := Action.applyToExisting_yields user ids includeManual w
  unfold Action.Yields at hr
  generalize (Action.applyToExisting user ids includeManual).run w = p at hr ⊢
  obtain ⟨r, w'⟩ := p
  obtain ⟨summary, rfl⟩ := hr.ok
  obtain ⟨ha, -, hrules⟩ := hr.frame
  refine ⟨summary, w', rfl, ha, hrules, (hr.transactions h.distinct).imp fun t t' ht => ?_⟩
  cases ht with
  | kept hno => exact ⟨fun ho => absurd ho hno, fun _ => rfl⟩
  | assigned ho now => exact ⟨fun _ => rfl, fun hno => absurd ho hno⟩

/-- One purchase gets the merchant and keeps the category it was given by hand;
the other, whose pair cannot be written, stays as it is. -/
theorem bulk_overwrites_bread_alone :
    Sample.world.store.Overwrites "ana" none false Sample.bread ∧
      ¬Sample.world.store.Overwrites "ana" none false Sample.cake ∧
      ∃ w', ((Action.applyToExisting "ana" none false).run Sample.world).2 = w' ∧
        (∃ t ∈ w'.store.transactions,
          t = { Sample.bread with merchant := some "Baker", updatedAt := t.updatedAt }) ∧
        Sample.cake ∈ w'.store.transactions := by
  have hb : Sample.world.store.Overwrites "ana" none false Sample.bread :=
    ⟨rfl, nofun, .inr rfl, by decide +kernel, by decide +kernel⟩
  have hr : ¬Sample.world.store.Overwrites "ana" none false Sample.cake :=
    fun h => absurd h.accepted (by decide +kernel)
  refine ⟨hb, hr, ?_⟩
  obtain ⟨summary, w', hw, -, -, hts⟩ :=
    applyToExisting_pointwise Sample.reachable_world "ana" none false
  rw [hw]
  refine ⟨w', rfl, ?_, ?_⟩
  · obtain ⟨t, ht, hover, -⟩ := exists_of_forall₂ hts Sample.bread (by decide +kernel)
    have hm : (Sample.world.store.proposal "ana" false Sample.bread).pair =
      (none, some "Baker") := by
      decide +kernel
    obtain ⟨hc, hm⟩ := Prod.mk.inj hm
    refine ⟨t, ht, ?_⟩
    rw [hover hb, hc, hm]
    rfl
  · obtain ⟨t, ht, -, hkept⟩ := exists_of_forall₂ hts Sample.cake (by decide +kernel)
    rwa [hkept hr] at ht

end LedgerRules
