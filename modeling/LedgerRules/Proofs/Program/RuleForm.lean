/-
# Stored rules are well formed

A rule comes into a store when it is created, and it is changed by updates and
by counts.  A new rule and an updated one are looked at before they are stored
(`Rule.complaint?`): the name is not blank, and there is a target.  What is not
looked at then holds by the way the rule was made: names and merchants are
trimmed, and conditions come from a body that was accepted, so they are in
normal form (`Conditions.wellFormed_of_accepted`).  An update that leaves a part
alone keeps the one of the stored rule, so the proof needs that all parts were
well formed before; the targets alone are looked at together, because an update
may clear either of them.  Counts change none of this.
-/

import LedgerRules.Proofs.Conditions.Meaning
import LedgerRules.Proofs.Program.RuleIds
import LedgerRules.Proofs.Text.Trim

namespace LedgerRules

/-- A body in normal form has a condition, each of its conditions fits, and the
ones on texts say whether case counts. -/
structure Conditions.WellFormed (c : Conditions) : Prop where
  normal : c.normalize = c
  nonempty : c.items ≠ []
  caseGiven : ∀ field test caseSensitive,
    Condition.text field test caseSensitive ∈ c.items → caseSensitive.isSome = true
  fits : ∀ x ∈ c.items, x.Fits

/-- A rule with a name that proposes something, and with conditions that can be
looked at.  Neither its name nor its merchant has blanks around it. -/
structure Rule.WellFormed (r : Rule) : Prop where
  name : Text.Trimmed r.name
  target : r.hasTarget = true
  merchant : ∀ m, r.merchant = some m → Text.Trimmed m
  conditions : r.conditions.WellFormed

/-- The conditions of an accepted body are well formed. -/
theorem Conditions.wellFormed_of_accepted {body : Json} {c : Conditions}
    (h : validate body = .accepted c) : c.WellFormed where
  normal := by
    obtain ⟨d, -, rfl⟩ := validate_eq_accepted_iff.1 h
    exact d.normalize_normalize
  nonempty := (fits_of_accepted h).1
  caseGiven field test caseSensitive hx := by
    have hnormal := ((fits_of_accepted h).2 _ hx).2
    rw [Condition.normalize_text, Condition.text.injEq] at hnormal
    rw [← hnormal.2.2]
    rfl
  fits x hx := ((fits_of_accepted h).2 x hx).1

/-- There is nothing to complain of in a rule with a name and a target. -/
theorem Rule.complaint?_eq_none {r : Rule} :
    r.complaint? = none ↔ Text.isBlankText r.name = false ∧ r.hasTarget = true := by
  unfold complaint?
  cases Text.isBlankText r.name <;> cases r.hasTarget <;> simp

/-- A new rule that is not refused is well formed. -/
theorem NewRule.wellFormed_rule {new : NewRule} {conditions : Conditions} {id : Id}
    {user : String} {priority : Int32} {now : Instant}
    (hv : Conditions.validate new.conditions = .accepted conditions)
    (hc : (new.rule conditions id user priority now).complaint? = none) :
    (new.rule conditions id user priority now).WellFormed where
  name := Text.trimmed_of_not_isBlankText (Rule.complaint?_eq_none.1 hc).1
  target := (Rule.complaint?_eq_none.1 hc).2
  merchant _ hm := trimmed_of_normalizeMerchant hm
  conditions := Conditions.wellFormed_of_accepted hv

/-- A rule that is updated and not refused stays well formed. -/
theorem RuleUpdate.wellFormed_apply {update : RuleUpdate} {conditions : Option Conditions}
    {r : Rule} (hr : r.WellFormed)
    (hv : update.conditions.map Conditions.validate = conditions.map .accepted)
    (hc : (update.apply conditions r).complaint? = none) :
    (update.apply conditions r).WellFormed where
  name := by
    have hblank := (Rule.complaint?_eq_none.1 hc).1
    unfold apply at hblank ⊢
    cases hname : update.name with
    | none => exact hr.name
    | some s =>
      rw [hname] at hblank
      exact Text.trimmed_of_not_isBlankText hblank
  target := (Rule.complaint?_eq_none.1 hc).2
  merchant m hm := by
    unfold apply at hm
    cases hmerchant : update.merchant with
    | keep =>
      rw [hmerchant] at hm
      exact hr.merchant m hm
    | clear =>
      rw [hmerchant] at hm
      cases hm
    | set s =>
      rw [hmerchant] at hm
      have hkept : normalizeMerchant (some s) = some m := hm
      exact trimmed_of_normalizeMerchant hkept
  conditions := by
    cases conditions with
    | none => exact hr.conditions
    | some c =>
      obtain ⟨body, -, hbody⟩ := Option.map_eq_some_iff.1 hv
      exact Conditions.wellFormed_of_accepted hbody

/-- How often a rule was applied does not matter to its form. -/
theorem Rule.SameButUsage.wellFormed {r r' : Rule} (h : r.SameButUsage r')
    (hr : r.WellFormed) : r'.WellFormed := by
  unfold SameButUsage at h
  rw [h]
  exact ⟨hr.name, hr.target, hr.merchant, hr.conditions⟩

namespace Memory

variable {backfillIncludesManual : Bool} {user : String} {op : Operation} {m m' : Memory}

/-- All rules of a store are well formed, those that are switched off included. -/
def RulesWellFormed (m : Memory) : Prop := ∀ r ∈ m.rules, r.WellFormed

/-- **Every step keeps rules well formed.** A rule is created or changed only
after it was checked, and usage has no part in its form. -/
theorem Step.rulesWellFormed (h : Step backfillIncludesManual user op m m')
    (hw : m.RulesWellFormed) : m'.RulesWellFormed := by
  cases h with
  | enroll _ => exact hw
  | enter _ _ => exact hw
  | edit _ => exact hw
  | classify _ h => exact forall_of_forall₂ (fun _ _ h hr => h.wellFormed hr) h.frame.2.2 hw
  | bulk _ h => exact forall_of_forall₂ (fun _ _ h hr => h.wellFormed hr) h.frame.2.2 hw
  | create hv _ hc _ =>
    intro r hr
    rcases List.mem_append.1 hr with hr | hr
    · exact hw r hr
    · obtain rfl := List.mem_singleton.1 hr
      exact NewRule.wellFormed_rule hv hc
  | @change _ _ id update old conditions now _ h hv hc =>
    have hnew := RuleUpdate.wellFormed_apply (hw old (rule?_mem h).1) hv hc
    refine forall_of_forall₂ (R := fun r r' : Rule => r.WellFormed → r'.WellFormed)
      (fun _ _ hr => hr) (forall₂_modifyFirst (fun _ hr => hr) fun r _ _ => ?_) hw
    exact ⟨hnew.name, hnew.target, hnew.merchant, hnew.conditions⟩
  | delete => exact fun r hr => hw r (List.mem_filter.1 hr).1

end Memory

/-- Rules are well formed wherever a run leads. -/
theorem Reachable.rulesWellFormed {w : World Memory} (h : Reachable w) :
    w.store.RulesWellFormed :=
  h.induction (fun _ => List.forall_mem_nil _) (fun _ _ hw => hw)
    fun _ _ _ _ _ hs hw => hs.rulesWellFormed hw

/-- **The rules of a store that a run leads to are well formed**, whether the
operations of the run succeeded or failed, and no two of them have one
identifier. -/
theorem stored_rules_are_wellFormed {w : World Memory} (h : Reachable w) :
    w.store.DistinctRules ∧ ∀ r ∈ w.store.rules, r.WellFormed :=
  ⟨h.distinctRules, h.rulesWellFormed⟩

namespace Sample

/-- An update that takes away the category of the rule and sets a merchant with
blanks. -/
def retarget : Turn :=
  ⟨"ana", .updateRule ⟨3#128⟩ { category := .clear, merchant := .set " Bakery " }, false⟩

end Sample

/-- The rule whose category is taken away keeps a target, and its merchant is
trimmed. -/
theorem retargeted_rule_is_wellFormed :
    Reachable (Sample.retarget.after Sample.world) ∧
      ∃ r ∈ (Sample.retarget.after Sample.world).store.rules,
        r.category = none ∧ r.merchant = some "Bakery" ∧ r.WellFormed := by
  have hreach := Sample.reachable_world.next Sample.retarget
  have hrule : ∃ r ∈ (Sample.retarget.after Sample.world).store.rules,
      r.category = none ∧ r.merchant = some "Bakery" := by
    decide +kernel
  obtain ⟨r, hr, hc, hm⟩ := hrule
  exact ⟨hreach, r, hr, hc, hm, (stored_rules_are_wellFormed hreach).2 r hr⟩

end LedgerRules
