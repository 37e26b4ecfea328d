/-
# Groups account for every proposal

Grouping neither loses nor repeats a transaction
(`groups_account_for_proposals`).  Which pairs have a group and which
transactions are in it is known from `Group.Divides`; two things are added
here.  The groups stand in the order in which their pairs appear first, as if
repeated pairs were struck out (`Group.map_key_ofOutcomes`).  And the usage of a
group is a map: its rules ascend and none is counted as nothing
(`Usage.Proper`), so what is found for a rule is its total, which is the number
of transactions in the group that the rule contributed to
(`Group.total_ofOutcomes`).
-/

import LedgerRules.Proofs.Outcome.Reordering
import LedgerRules.Proofs.Outcome.Usage

namespace LedgerRules

namespace Id

/-- No identifier is before itself. -/
theorem less_irrefl (a : Id) : a.less a = false :=
  decide_eq_false (BitVec.lt_irrefl a.code)

/-- The order of identifiers is transitive. -/
theorem less_trans {a b c : Id} (hab : a.less b = true) (hbc : b.less c = true) :
    a.less c = true :=
  decide_eq_true (BitVec.lt_trans (of_decide_eq_true hab) (of_decide_eq_true hbc))

/-- Of two identifiers one is before the other, unless they are the same. -/
theorem less_of_ne {a b : Id} (hne : a ≠ b) (h : ¬a.less b = true) : b.less a = true := by
  unfold less at h ⊢
  rw [decide_eq_true_iff] at h ⊢
  obtain ⟨a⟩ := a
  obtain ⟨b⟩ := b
  rw [ne_eq, mk.injEq] at hne
  bv_omega

end Id

/-! ### Usages as maps -/

namespace Usage

/-- The rules ascend, and none is counted as nothing.  Then a usage is a finite
map, as the `BTreeMap` of `OutcomeGroup` is one. -/
structure Proper (usage : Usage) : Prop where
  ascending : usage.Pairwise fun a b => a.1.less b.1 = true
  positive : ∀ e ∈ usage, e.2 ≠ 0

variable {usage : Usage} {rule id : Id} {n : Nat}

/-- A count that is added brings in its own rule and no other. -/
theorem mem_add {e : Id × Nat} (h : e ∈ usage.add id n) :
    e.1 = id ∨ ∃ e' ∈ usage, e'.1 = e.1 := by
  induction usage with
  | nil =>
    rw [add, List.mem_singleton] at h
    exact .inl (congrArg Prod.fst h)
  | cons entry rest ih =>
    unfold add at h
    split at h
    · rcases List.mem_cons.1 h with rfl | h
      · exact .inr ⟨entry, List.mem_cons_self .., rfl⟩
      · exact .inr ⟨e, List.mem_cons_of_mem _ h, rfl⟩
    · split at h
      · rcases List.mem_cons.1 h with rfl | h
        · exact .inl rfl
        · exact .inr ⟨e, h, rfl⟩
      · rcases List.mem_cons.1 h with rfl | h
        · exact .inr ⟨entry, List.mem_cons_self .., rfl⟩
        · rcases ih h with h | ⟨e', he', heq⟩
          · exact .inl h
          · exact .inr ⟨e', List.mem_cons_of_mem _ he', heq⟩

namespace Proper

/-- Nothing counted is proper. -/
theorem nil : Proper [] := ⟨.nil, nofun⟩

/-- What stands behind the first count of a proper usage is proper. -/
theorem of_cons {entry : Id × Nat} (h : Proper (entry :: usage)) : usage.Proper :=
  ⟨(List.pairwise_cons.1 h.ascending).2, fun e he => h.positive e (List.mem_cons_of_mem _ he)⟩

/-- A rule that is counted keeps its place, and a new one gets the place that it
belongs to. -/
theorem add (h : usage.Proper) (hn : n ≠ 0) : (usage.add id n).Proper := by
  induction usage with
  | nil => exact ⟨List.pairwise_singleton _ _, by simpa [Usage.add] using hn⟩
  | cons entry rest ih =>
    obtain ⟨id', n'⟩ := entry
    obtain ⟨hless, hrest⟩ := List.pairwise_cons.1 h.ascending
    have hn' : n' ≠ 0 := h.positive _ (List.mem_cons_self ..)
    unfold Usage.add
    split
    · refine ⟨List.pairwise_cons.2 ⟨hless, hrest⟩, List.forall_mem_cons.2 ⟨?_, h.of_cons.positive⟩⟩
      show n' + n ≠ 0
      omega
    · rename_i hne
      split
      · rename_i hfirst
        refine ⟨List.pairwise_cons.2 ⟨List.forall_mem_cons.2 ⟨hfirst, fun e he => ?_⟩, h.ascending⟩,
          List.forall_mem_cons.2 ⟨hn, h.positive⟩⟩
        exact Id.less_trans hfirst (hless e he)
      · rename_i hlater
        have hmore := ih h.of_cons
        refine ⟨List.pairwise_cons.2 ⟨fun e he => ?_, hmore.ascending⟩,
          List.forall_mem_cons.2 ⟨hn', hmore.positive⟩⟩
        rcases mem_add he with he | ⟨e', he', heq⟩
        · rw [he]
          exact Id.less_of_ne hne hlater
        · rw [← heq]
          exact hless e' he'

/-- Rules that are counted one after the other leave a usage proper. -/
theorem addAll (h : usage.Proper) (rules : List Id) : (usage.addAll rules).Proper := by
  unfold Usage.addAll
  induction rules generalizing usage with
  | nil => exact h
  | cons id rules ih => exact ih (h.add Nat.one_ne_zero)

/-- No rule is counted twice, because the rules ascend. -/
theorem nodup (h : usage.Proper) : (usage.map Prod.fst).Nodup := by
  refine List.pairwise_map.2 (h.ascending.imp fun hless heq => ?_)
  rw [heq, Id.less_irrefl] at hless
  exact Bool.noConfusion hless

/-- A rule that is not counted has no total. -/
theorem total_eq_zero (h : ∀ e ∈ usage, e.1 ≠ rule) : usage.total rule = 0 := by
  induction usage with
  | nil => rfl
  | cons entry rest ih =>
    obtain ⟨hne, hrest⟩ := List.forall_mem_cons.1 h
    rw [total_cons, if_neg hne, ih hrest]

/-- **What is found for a rule is its total**, and what has no total is not
found.  Totals are what sums are shown about, and lookups what a reader of the
map gets. -/
theorem lookup_eq (h : usage.Proper) (rule : Id) :
    usage.lookup rule = if usage.total rule = 0 then none else some (usage.total rule) := by
  induction usage with
  | nil => rfl
  | cons entry rest ih =>
    obtain ⟨id, n⟩ := entry
    rw [List.lookup_cons, total_cons]
    by_cases he : id = rule
    · subst he
      have hrest : total id rest = 0 := by
        refine total_eq_zero fun e hmem heq => ?_
        have hless := (List.pairwise_cons.1 h.ascending).1 e hmem
        rw [heq, Id.less_irrefl] at hless
        exact Bool.noConfusion hless
      have hn : n ≠ 0 := h.positive _ (List.mem_cons_self ..)
      rw [beq_self_eq_true, if_pos rfl, hrest, Nat.add_zero, if_neg hn]
    · rw [if_neg he, Nat.zero_add, beq_false_of_ne (Ne.symm he), ih h.of_cons]

end Proper
end Usage

/-- Whether a rule supplied one of the targets of an outcome, or both.  A rule
that supplied both counts once. -/
def Outcome.isFrom (o : Outcome) (rule : Id) : Bool :=
  o.categoryRule == some rule || o.merchantRule == some rule

/-- A rule that supplied both targets contributed once, as
`RuleOutcome.contributing_rules` names it once. -/
theorem Outcome.count_contributing (o : Outcome) (rule : Id) :
    o.contributing.count rule = if o.isFrom rule then 1 else 0 := by
  unfold contributing isFrom
  cases o.categoryRule <;> cases o.merchantRule <;> simp
  all_goals grind

/-- What a list already has is struck out, and what it does not have stands
last.  The pairs of groups come up in this way. -/
theorem eraseDups_concat {α : Type} [BEq α] [LawfulBEq α] (l : List α) (a : α) :
    (l ++ [a]).eraseDups = if a ∈ l.eraseDups then l.eraseDups else l.eraseDups ++ [a] := by
  rw [List.eraseDups_append, List.removeAll]
  by_cases h : a ∈ l <;> simp [h, List.eraseDups_cons]

namespace Group

variable {id : Id} {o : Outcome} {outcomes : List (Id × Outcome)}

/-- The pairs that have a group, in the order in which they appear first. -/
theorem map_key_ofOutcomes (outcomes : List (Id × Outcome)) :
    (ofOutcomes outcomes).map key =
      ((outcomes.filter (!·.2.isEmpty)).map (·.2.pair)).eraseDups := by
  induction outcomes using List.reverseRecOn with
  | nil => rfl
  | append_singleton outcomes e ih =>
    obtain ⟨id, o⟩ := e
    rw [ofOutcomes_append, List.filter_append, List.map_append]
    cases ho : o.isEmpty with
    | true =>
      have hlast : ([(id, o)].filter (!·.2.isEmpty)).map (·.2.pair) = [] := by simp [ho]
      rw [hlast, List.append_nil, if_pos rfl, ih]
    | false =>
      have hlast : ([(id, o)].filter (!·.2.isEmpty)).map (·.2.pair) = [o.pair] := by simp [ho]
      rw [hlast, if_neg Bool.false_ne_true, eraseDups_concat, map_key_insert, ih]

/-- An insertion looks at the groups from the first one on and stops at the one
that fits. -/
theorem insert_cons (g : Group) (rest : List Group) :
    insert id o (g :: rest) =
      if g.fits o then g.push id o :: rest else g :: insert id o rest := rfl

/-- Among groups of some pairs an insertion is one if its pair is among them,
and nothing otherwise. -/
theorem filter_insert (p : Option Int64 × Option String → Bool) (groups : List Group) :
    (insert id o groups).filter (p ·.key) =
      if p o.pair then insert id o (groups.filter (p ·.key)) else groups.filter (p ·.key) := by
  induction groups with
  | nil => exact List.filter_cons
  | cons g rest ih =>
    rw [insert_cons]
    by_cases hf : g.fits o = true
    · rw [if_pos hf, List.filter_cons, List.filter_cons, key_push, fits_iff.1 hf]
      by_cases hp : p o.pair = true
      · rw [if_pos hp, if_pos hp, if_pos hp, insert_cons, if_pos hf]
      · rw [if_neg hp, if_neg hp, if_neg hp]
    · rw [if_neg hf, List.filter_cons, List.filter_cons, ih]
      by_cases hg : p g.key = true
      · rw [if_pos hg, if_pos hg, insert_cons, if_neg hf]
        split <;> rfl
      · rw [if_neg hg, if_neg hg]

/-- **The groups of some pairs are the groups of the proposals with these
pairs.** So groups that fail can be left out before or after the grouping. -/
theorem filter_ofOutcomes (p : Option Int64 × Option String → Bool)
    (outcomes : List (Id × Outcome)) :
    (ofOutcomes outcomes).filter (p ·.key) = ofOutcomes (outcomes.filter (p ·.2.pair)) := by
  induction outcomes using List.reverseRecOn with
  | nil => rfl
  | append_singleton outcomes e ih =>
    obtain ⟨id, o⟩ := e
    rw [List.filter_append, ofOutcomes_append]
    cases hp : p o.pair with
    | true =>
      have hlast : [(id, o)].filter (p ·.2.pair) = [(id, o)] := by simp [hp]
      rw [hlast, ofOutcomes_append, ← ih]
      split
      · rfl
      · rw [filter_insert, if_pos hp]
    | false =>
      have hlast : [(id, o)].filter (p ·.2.pair) = [] := by simp [hp]
      rw [hlast, List.append_nil, ← ih]
      split
      · rfl
      · rw [filter_insert, hp, if_neg Bool.false_ne_true]

/-- To how many of the proposals with a pair a rule contributed.  These are its
entries in the usage of the group of that pair. -/
def contributions (rule : Id) (pair : Option Int64 × Option String)
    (outcomes : List (Id × Outcome)) : Nat :=
  outcomes.countP fun e => e.2.pair == pair && e.2.isFrom rule

/-- The last proposal adds to the contributions of the rules that it is from, if
it has the pair. -/
theorem contributions_snoc {rule : Id} {pair : Option Int64 × Option String} :
    contributions rule pair (outcomes ++ [(id, o)]) =
      contributions rule pair outcomes +
        if o.pair = pair then o.contributing.count rule else 0 := by
  unfold contributions
  rw [List.countP_append, List.countP_singleton, o.count_contributing rule]
  by_cases h : o.pair = pair <;> simp [h]

/-- Where no proposal has the pair no rule contributed to one. -/
theorem contributions_eq_zero {rule : Id} {pair : Option Int64 × Option String}
    (h : ∀ e ∈ outcomes, e.2.pair ≠ pair) : contributions rule pair outcomes = 0 := by
  refine List.countP_eq_zero.2 fun e he => ?_
  rw [beq_false_of_ne (h e he), Bool.false_and]
  exact Bool.false_ne_true

/-- **A group counts what its transactions are from**: its usage is a map, and
the total of a rule is the number of its proposals that the rule contributed to. -/
theorem total_ofOutcomes {g : Group} (hg : g ∈ ofOutcomes outcomes) (rule : Id) :
    g.usage.Proper ∧ g.usage.total rule = contributions rule g.key outcomes := by
  induction outcomes using List.reverseRecOn generalizing g with
  | nil => exact absurd hg List.not_mem_nil
  | append_singleton outcomes e ih =>
    obtain ⟨id, o⟩ := e
    have hdiv := divides_ofOutcomes outcomes
    rw [contributions_snoc]
    rw [ofOutcomes_append] at hg
    cases ho : o.isEmpty with
    | true =>
      rw [if_pos ho] at hg
      have hne : o.pair ≠ g.key := by
        rw [Outcome.isEmpty_iff.1 ho]
        exact (hdiv.proposes g hg).symm
      rw [if_neg hne]
      exact ih hg
    | false =>
      rw [ho, if_neg Bool.false_ne_true] at hg
      rcases mem_insert hdiv.keys hg with ⟨hm, hne⟩ | ⟨g₀, hm, he, rfl⟩ | ⟨rfl, hn⟩
      · rw [if_neg hne.symm]
        exact ih hm
      · obtain ⟨hproper, htotal⟩ := ih hm
        refine ⟨hproper.addAll _, ?_⟩
        rw [key_push, if_pos he.symm, ← htotal]
        exact Usage.total_addAll rule o.contributing g₀.usage
      · refine ⟨Usage.Proper.nil.addAll _, ?_⟩
        rw [key_single, if_pos rfl, contributions_eq_zero (hdiv.pair_ne ho hn)]
        exact Usage.total_addAll rule o.contributing []

/-- All groups together count a rule as often as it contributed to a proposal
that is not empty. -/
theorem sum_total_eq_countP (rule : Id) (outcomes : List (Id × Outcome)) :
    ((ofOutcomes outcomes).map (·.usage.total rule)).sum =
      (outcomes.filter (!·.2.isEmpty)).countP (·.2.isFrom rule) := by
  rw [sum_total_ofOutcomes]
  induction outcomes with
  | nil => rfl
  | cons e outcomes ih =>
    rw [List.map_cons, List.sum_cons, ih, Outcome.credits, Outcome.count_contributing]
    cases he : e.2.isEmpty with
    | true =>
      rw [List.filter_cons_of_neg (by simp [he]), if_pos rfl, Nat.zero_add]
    | false =>
      rw [List.filter_cons_of_pos (by simp [he]), List.countP_cons, Nat.add_comm,
        if_neg Bool.false_ne_true]

end Group

/-- **Grouping neither loses nor repeats a transaction.** The groups have the
pairs of the proposals that are not empty, each pair once and in the order in
which they appear first.  The transactions of a group are those whose proposal
has its pair, in their order and as often as they are in the list; all groups
together hold each transaction as often as it has a proposal that is not empty.
The usage of a group names each rule once, and what it has for a rule is the
number of its proposals that the rule contributed to, or nothing if there are
none. -/
theorem groups_account_for_proposals (outcomes : List (Id × Outcome)) :
    (Group.ofOutcomes outcomes).map Group.key =
        ((outcomes.filter (!·.2.isEmpty)).map (·.2.pair)).eraseDups ∧
      ((Group.ofOutcomes outcomes).map Group.key).Nodup ∧
      ((Group.ofOutcomes outcomes).flatMap (·.transactions)).Perm
        ((outcomes.filter (!·.2.isEmpty)).map Prod.fst) ∧
      ∀ g ∈ Group.ofOutcomes outcomes,
        g.key ≠ (none, none) ∧
        g.transactions = (outcomes.filter fun e => e.2.pair == g.key).map Prod.fst ∧
        (g.usage.map Prod.fst).Nodup ∧
        ∀ rule, g.usage.lookup rule =
          if Group.contributions rule g.key outcomes = 0 then none
          else some (Group.contributions rule g.key outcomes) := by
  have hdiv := Group.divides_ofOutcomes outcomes
  refine ⟨Group.map_key_ofOutcomes outcomes, hdiv.keys, Group.flatMap_ofOutcomes_perm outcomes,
    fun g hg => ⟨hdiv.proposes g hg, hdiv.transactions g hg, ?_, fun rule => ?_⟩⟩
  · exact (Group.total_ofOutcomes hg default).1.nodup
  · obtain ⟨hproper, htotal⟩ := Group.total_ofOutcomes hg rule
    rw [hproper.lookup_eq, htotal]

end LedgerRules
