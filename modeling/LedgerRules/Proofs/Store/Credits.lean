/-
# What a count makes of the rules

Where rules have identifiers of their own, counting a usage adds to every rule
what the usage holds for it, and changes nothing else but the time of its last
application (`credited_countAll`).
-/

import LedgerRules.Proofs.Outcome.Usage
import LedgerRules.Proofs.Store.Records

namespace LedgerRules

/-- A rule was applied as often as its identifier says, and is the same
otherwise.  `times` is the number of applications for every identifier, so the
relation can be asked of a whole list of rules at once; the time of the last
application is left open. -/
def Rule.Credited (times : Id → Nat) (r r' : Rule) : Prop :=
  ∃ last, r' = { r with timesApplied := r.timesApplied + times r.id, lastAppliedAt := last }

namespace Rule

variable {times more : Id → Nat} {r r' r'' : Rule}

/-- A rule that was not applied is credited as it stands, with the time of its
last application as it was. -/
theorem credited_self (h : times r.id = 0) : r.Credited times r := by
  refine ⟨r.lastAppliedAt, ?_⟩
  rw [h, Int.natCast_zero, Int.add_zero]

/-- Counting `n` applications credits a rule with just as many, at whatever time
they are counted. -/
theorem credited_applied {n : Nat} (h : times r.id = n) (now : Instant) :
    r.Credited times (r.applied n now) := by
  refine ⟨some now, ?_⟩
  rw [h]
  rfl

/-- Credits do not touch the identifier, so counted rules are found where they
were. -/
theorem Credited.id_eq (h : r.Credited times r') : r'.id = r.id := by
  obtain ⟨last, rfl⟩ := h
  rfl

/-- A credit is nothing but usage: what a rule says, whom it belongs to and when
it was created are kept. -/
theorem Credited.sameButUsage (h : r.Credited times r') : r.SameButUsage r' := by
  obtain ⟨last, rfl⟩ := h
  rfl

/-- Applications add up: credits that are given one after the other are those of
their sum. -/
theorem Credited.trans (h : r.Credited times r') (h' : r'.Credited more r'') :
    r.Credited (fun id => times id + more id) r'' := by
  obtain ⟨last, rfl⟩ := h
  obtain ⟨last', rfl⟩ := h'
  refine ⟨last', ?_⟩
  rw [Int.natCast_add, Int.add_assoc]

/-- Only the number for the rule's own identifier matters for it, so two counts
that agree there credit it alike. -/
theorem Credited.congr (h : r.Credited times r') (he : times r.id = more r.id) :
    r.Credited more r' := by
  unfold Credited at h ⊢
  rwa [← he]

/-- Only the rule that is named is credited.  `modifyFirst` changes the first
rule with the identifier; since identifiers are distinct there is no second one
that would be passed over. -/
theorem credited_modifyFirst {rules : List Rule} (hd : (rules.map (·.id)).Nodup) (id : Id) (n : Nat)
    (now : Instant) :
    List.Forall₂ (Credited fun i => if id = i then n else 0) rules
      (modifyFirst (·.id == id) (·.applied n now) rules) := by
  induction rules with
  | nil => exact .nil
  | cons r rules ih =>
    obtain ⟨hr, hd⟩ := List.nodup_cons.1 hd
    unfold modifyFirst
    split
    · rename_i h
      rw [beq_iff_eq] at h
      refine .cons (credited_applied (if_pos h.symm) now) (List.forall₂_same.2 fun s hs => ?_)
      have hne : ¬id = s.id := fun he => hr (List.mem_map.2 ⟨s, hs, (h.trans he).symm⟩)
      exact credited_self (if_neg hne)
    · rename_i h
      exact .cons (credited_self (if_neg fun he => h (beq_iff_eq.2 he.symm))) (ih hd)

end Rule

namespace Memory

/-- A store whose rules all have identifiers of their own, as `insert_rule` sees
to it that they have. -/
def DistinctRules (m : Memory) : Prop := (m.rules.map (·.id)).Nodup

variable {m : Memory}

/-- Counting applications of one rule credits it, and every other rule with
none. -/
theorem credited_count (hd : m.DistinctRules) (id : Id) (n : Nat) (now : Instant) :
    List.Forall₂ (Rule.Credited fun i => if id = i then n else 0) m.rules
      (m.count id n now).rules := by
  unfold count
  split
  · rename_i h
    subst h
    exact List.forall₂_same.2 fun r _ => Rule.credited_self (ite_self 0)
  · exact Rule.credited_modifyFirst hd id n now

/-- **A usage that is counted adds its totals to the rules.** This is
`RuleService.record_usage` over a whole list of totals, one call for each rule. -/
theorem credited_countAll (hd : m.DistinctRules) (usage : Usage) (now : Instant) :
    List.Forall₂ (Rule.Credited usage.total) m.rules (m.countAll usage now).rules := by
  induction usage generalizing m with
  | nil => exact List.forall₂_same.2 fun r _ => Rule.credited_self rfl
  | cons entry usage ih =>
    obtain ⟨id, n⟩ := entry
    have h := credited_count hd id n now
    have hd' : (m.count id n now).DistinctRules := by
      unfold DistinctRules at hd ⊢
      rwa [map_eq_of_forall₂ (fun _ _ h => h.id_eq) h]
    exact forall₂_trans (fun _ _ _ h h' => h.trans h') h (ih hd')

end Memory
end LedgerRules
