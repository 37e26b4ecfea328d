/-
# Rules keep identifiers of their own

A step of an operation keeps the identifiers of the rules and their order, takes
rules out or, if the operation is to create a rule, puts one with a new
identifier behind the others.  So the identifiers of rules are distinct in every
store that a run leads to (`Reachable.distinctRules`), and a usage that is
counted is counted for the rules it is about.
-/

import LedgerRules.Proofs.Program.Reachable
import LedgerRules.Proofs.Store.Credits

namespace LedgerRules
namespace Memory

variable {backfillIncludesManual : Bool} {user : String} {op : Operation} {m m' : Memory}

/-- The application of rules to one transaction changes no account, and of rules
only how often and when they were applied. -/
theorem Classifies.frame {id : Id} {r : Except Error Outcome} (h : m.Classifies user id r m') :
    m'.accounts = m.accounts ∧ m'.failing = m.failing ∧
      List.Forall₂ Rule.SameButUsage m.rules m'.rules := by
  have hrefl : List.Forall₂ Rule.SameButUsage m.rules m.rules :=
    List.forall₂_same.2 fun r _ => .refl r
  cases h with
  | missing _ => exact ⟨rfl, rfl, hrefl⟩
  | silent _ _ _ => exact ⟨rfl, rfl, hrefl⟩
  | @refused t o _ _ _ _ now =>
    obtain ⟨ha, hr, hf⟩ := assign_frame m user ⟨o.category, o.merchant, [id], []⟩ now
    exact ⟨ha, hf, hr ▸ hrefl⟩
  | @written t o _ _ _ _ now later =>
    obtain ⟨ha, hr, hf⟩ := assign_frame m user ⟨o.category, o.merchant, [id], []⟩ now
    have hs := sameButUsage_countAll (o.usage (m.transactions.countP (reaches user [id])))
      (m.assign user o.category o.merchant [id] now).2 later
    exact ⟨hs.accounts.trans ha, hs.failing.trans hf, hr ▸ hs.rules⟩

/-- **What a step makes of the identifiers of rules.** They stay in their
places, a new one is put behind them, or some are taken out. -/
theorem Step.rules (h : Step backfillIncludesManual user op m m') :
    List.Forall₂ (fun r r' : Rule => r'.id = r.id) m.rules m'.rules ∨
      (∃ r, (∃ new, op = .createRule new) ∧ (∀ s ∈ m.rules, s.id ≠ r.id) ∧
        m'.rules = m.rules ++ [r]) ∨
      m'.rules.Sublist m.rules := by
  have hsame : ∀ r r' : Rule, r.SameButUsage r' → r'.id = r.id := fun r r' h => by rw [h]
  cases h with
  | enroll _ => exact .inr (.inr (.refl _))
  | enter _ _ => exact .inr (.inr (.refl _))
  | edit _ => exact .inr (.inr (.refl _))
  | classify _ h => exact .inl (h.frame.2.2.imp hsame)
  | bulk _ h => exact .inl (h.frame.2.2.imp hsame)
  | create _ _ _ hid => exact .inr (.inl ⟨_, ⟨_, rfl⟩, hid, rfl⟩)
  | @change _ _ id _ old _ _ _ h _ _ =>
    refine .inl (forall₂_modifyFirst (R := fun r r' : Rule => r'.id = r.id)
      (fun _ => rfl) fun r hr => ?_)
    obtain rfl := Option.some.inj (hr.symm.trans h)
    rfl
  | delete => exact .inr (.inr List.filter_sublist)

/-- Steps keep the identifiers of rules distinct: only a creation brings one in,
and it checks that it is new. -/
theorem Step.distinctRules (h : Step backfillIncludesManual user op m m')
    (hd : m.DistinctRules) : m'.DistinctRules := by
  unfold DistinctRules at hd ⊢
  rcases h.rules with h | ⟨r, -, hid, h⟩ | h
  · rwa [map_eq_of_forall₂ (fun _ _ h => h) h]
  · rw [h]
    exact nodup_map_concat hd hid
  · exact hd.sublist (h.map _)

end Memory

/-- **The identifiers of rules are distinct** wherever a run leads, as one that
is taken is refused. -/
theorem Reachable.distinctRules {w : World Memory} (h : Reachable w) : w.store.DistinctRules :=
  h.induction (fun _ => List.nodup_nil) (fun _ _ hd => hd)
    fun _ _ _ _ _ hs hd => hs.distinctRules hd

end LedgerRules
