/-
# How often rules are counted

A usage is a list of counts, kept in order.  What it says of one rule is its
*total* for that rule, and every operation on usages is an addition of totals.
So grouping neither loses nor invents an application: the totals of the groups
add up to what the outcomes credit, one by one (`sum_total_ofOutcomes`).
-/

import LedgerRules.Outcome.Group
import Mathlib.Algebra.BigOperators.Group.List.Basic
import Mathlib.Algebra.GroupWithZero.Nat
import Mathlib.Data.List.Induction

namespace LedgerRules

namespace Usage

/-- What a usage counts for a rule, all its entries added up; in a usage that is
a map there is one at most. -/
def total (rule : Id) : Usage → Nat
  | [] => 0
  | (id, n) :: rest => (if id = rule then n else 0) + total rule rest

/-- Nothing counted counts nothing. -/
@[simp]
theorem total_nil (rule : Id) : total rule [] = 0 := rfl

/-- An entry adds to the total of its rule. -/
@[simp]
theorem total_cons (rule id : Id) (n : Nat) (rest : Usage) :
    total rule ((id, n) :: rest) = (if id = rule then n else 0) + total rule rest := rfl

/-- A count that is added is added to the total of its rule alone. -/
theorem total_add (rule id : Id) (n : Nat) (usage : Usage) :
    (usage.add id n).total rule = usage.total rule + if id = rule then n else 0 := by
  induction usage with
  | nil => simp [add]
  | cons entry rest ih =>
    obtain ⟨id', n'⟩ := entry
    unfold add
    split
    · rename_i h
      subst h
      rw [total_cons, total_cons]
      split <;> omega
    · split
      · rw [total_cons, Nat.add_comm]
      · rw [total_cons, total_cons, ih, Nat.add_assoc]

/-- Counts that are added one after the other are added to the totals. -/
theorem total_merge (rule : Id) (usage more : Usage) :
    (usage.merge more).total rule = usage.total rule + more.total rule := by
  unfold merge
  induction more generalizing usage with
  | nil => rfl
  | cons entry more ih =>
    rw [List.foldl_cons, ih, total_add, total_cons, Nat.add_assoc]

/-- A list of rules adds to a total how often the rule is in it. -/
theorem total_addAll (rule : Id) (rules : List Id) (usage : Usage) :
    (usage.addAll rules).total rule = usage.total rule + rules.count rule := by
  unfold addAll
  induction rules generalizing usage with
  | nil => rfl
  | cons id rules ih =>
    rw [List.foldl_cons, ih, total_add, List.count_cons, Nat.add_assoc,
      Nat.add_comm (rules.count _)]
    simp only [beq_iff_eq]

end Usage

/-- How often an outcome credits a rule once it is written: an empty one never
is, and any other credits each rule that contributed once. -/
def Outcome.credits (o : Outcome) (rule : Id) : Nat :=
  if o.isEmpty then 0 else o.contributing.count rule

/-- An empty outcome credits no rule. -/
theorem Outcome.credits_of_isEmpty {o : Outcome} (h : o.isEmpty = true) (rule : Id) :
    o.credits rule = 0 := if_pos h

namespace Group

/-- A transaction that joins the groups brings the rules of its outcome. -/
theorem sum_total_insert (rule id : Id) (o : Outcome) (groups : List Group) :
    ((insert id o groups).map (·.usage.total rule)).sum =
      (groups.map (·.usage.total rule)).sum + o.contributing.count rule := by
  induction groups with
  | nil =>
    rw [insert, List.map_singleton, List.sum_singleton]
    exact Usage.total_addAll rule o.contributing []
  | cons g rest ih =>
    unfold insert
    split
    · have hg : (g.push id o).usage.total rule = g.usage.total rule + o.contributing.count rule :=
        Usage.total_addAll rule o.contributing g.usage
      rw [List.map_cons, List.map_cons, List.sum_cons, List.sum_cons, hg]
      omega
    · rw [List.map_cons, List.map_cons, List.sum_cons, List.sum_cons, ih, Nat.add_assoc]

/-- **Grouping neither loses nor invents an application**: for every rule the
groups count what the outcomes credit.  The induction is over the outcomes, each
of which goes into one group. -/
theorem sum_total_ofOutcomes (rule : Id) (outcomes : List (Id × Outcome)) :
    ((ofOutcomes outcomes).map (·.usage.total rule)).sum =
      (outcomes.map fun e => e.2.credits rule).sum := by
  induction outcomes using List.reverseRecOn with
  | nil => rfl
  | append_singleton outcomes e ih =>
    obtain ⟨id, o⟩ := e
    unfold ofOutcomes at ih ⊢
    rw [List.foldl_append, List.foldl_cons, List.foldl_nil, List.map_append, List.sum_append, ← ih,
      List.map_singleton, List.sum_singleton]
    unfold Outcome.credits
    dsimp only
    split
    · rfl
    · exact sum_total_insert rule id o _

end Group
end LedgerRules
