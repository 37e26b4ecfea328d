/-
# Proposals in another order

Groups stand in the order in which their pairs appear first, so the same
proposals in another order give other groups.  What is made of them does not
depend on it: the same pairs have a group, each with the same transactions
(`map_key_perm`, `exists_group_iff`), and usages that are put together are the
same list, because counts can be added in any order (`Usage.add_add`,
`foldl_merge_ofOutcomes`).
-/

import LedgerRules.Proofs.Outcome.Grouping
import Mathlib.Data.List.Perm.Basic
import Mathlib.Tactic.SplitIfs

namespace LedgerRules

/-! ### Counts in any order -/

namespace Usage

/-- Counts of two rules can be added in either order. -/
theorem add_add (a b : Id) (n k : Nat) (usage : Usage) :
    (usage.add a n).add b k = (usage.add b k).add a n := by
  have hless : ∀ x y : Id, x.less y = true ↔ x.code.toNat < y.code.toNat := by
    intro x y
    rw [Id.less, decide_eq_true_iff, BitVec.lt_def]
  have hcode : ∀ x y : Id, x = y ↔ x.code.toNat = y.code.toNat := by
    rintro ⟨x⟩ ⟨y⟩
    rw [Id.mk.injEq, BitVec.toNat_inj]
  induction usage with
  | nil =>
    simp only [add, hless]
    split_ifs <;> grind
  | cons entry rest ih =>
    obtain ⟨id, c⟩ := entry
    simp only [add, hless]
    split_ifs <;> simp only [add, hless] <;> split_ifs <;> grind

/-- A rule can be counted in two parts. -/
theorem add_same (a : Id) (n k : Nat) (usage : Usage) :
    (usage.add a n).add a k = usage.add a (n + k) := by
  have hself : a.less a = false := by
    rw [Id.less, decide_eq_false_iff_not]
    exact BitVec.lt_irrefl _
  induction usage with
  | nil => simp [add]
  | cons entry rest ih =>
    obtain ⟨id, c⟩ := entry
    simp only [add]
    split_ifs with he hl
    · rw [add, if_pos he, Nat.add_assoc]
    · rw [add, if_pos rfl]
    · rw [add, if_neg he, if_neg hl, ih]

/-- A usage is put in one rule after the other. -/
theorem merge_cons (id : Id) (n : Nat) (usage rest : Usage) :
    usage.merge ((id, n) :: rest) = (usage.add id n).merge rest := rfl

/-- What is counted before a usage is put in may be counted after it. -/
theorem merge_add_left (a : Id) (n : Nat) (usage more : Usage) :
    (usage.add a n).merge more = (usage.merge more).add a n := by
  induction more generalizing usage with
  | nil => rfl
  | cons entry more ih =>
    obtain ⟨id, c⟩ := entry
    rw [merge_cons, merge_cons, add_add, ih]

/-- What is counted in a usage that is put in may be counted after it. -/
theorem merge_add_right (a : Id) (n : Nat) (usage more : Usage) :
    usage.merge (more.add a n) = (usage.merge more).add a n := by
  induction more generalizing usage with
  | nil => rfl
  | cons entry rest ih =>
    obtain ⟨id, c⟩ := entry
    rw [add]
    split
    · rename_i he
      subst he
      rw [merge_cons, merge_cons, ← add_same, merge_add_left]
    · split
      · rw [merge_cons, merge_add_left]
      · rw [merge_cons, merge_cons, ih]

/-- Rules that are counted in a usage that is put in may be counted after it. -/
theorem merge_addAll (rules : List Id) (usage more : Usage) :
    usage.merge (more.addAll rules) = (usage.merge more).addAll rules := by
  unfold addAll
  induction rules generalizing more with
  | nil => rfl
  | cons rule rules ih => rw [List.foldl_cons, ih, merge_add_right, List.foldl_cons]

/-- And so may rules that are counted before. -/
theorem addAll_merge (rules : List Id) (usage more : Usage) :
    (usage.addAll rules).merge more = (usage.merge more).addAll rules := by
  unfold addAll
  induction rules generalizing usage with
  | nil => rfl
  | cons rule rules ih => rw [List.foldl_cons, ih, merge_add_left, List.foldl_cons]

/-- Rules may be counted in any order, each as often as it is named. -/
theorem addAll_perm {rules rules' : List Id} (h : rules.Perm rules') (usage : Usage) :
    usage.addAll rules = usage.addAll rules' :=
  h.foldl_eq' (fun a _ b _ u => add_add a b 1 1 u) usage

end Usage

namespace Group

variable {id : Id} {outcomes outcomes' : List (Id × Outcome)}

/-- The last proposal joins the groups of the others, unless it is empty. -/
theorem ofOutcomes_append (outcomes : List (Id × Outcome)) (id : Id) (o : Outcome) :
    ofOutcomes (outcomes ++ [(id, o)]) =
      if o.isEmpty then ofOutcomes outcomes else insert id o (ofOutcomes outcomes) := by
  unfold ofOutcomes
  rw [List.foldl_append]
  rfl

/-! ### Usages -/

/-- The rules that are counted for proposals, each as often as it contributed.
A rule that gave both targets contributed once. -/
def applications (outcomes : List (Id × Outcome)) : List Id :=
  outcomes.flatMap fun e => if e.2.isEmpty then [] else e.2.contributing

/-- Putting the usages of groups together may begin anywhere: what is counted
before comes out in the end. -/
theorem foldl_merge_addAll (rules : List Id) (groups : List Group) (usage : Usage) :
    groups.foldl (fun u g => u.merge g.usage) (usage.addAll rules) =
      (groups.foldl (fun u g => u.merge g.usage) usage).addAll rules := by
  induction groups generalizing usage with
  | nil => rfl
  | cons g rest ih => rw [List.foldl_cons, Usage.addAll_merge, ih, List.foldl_cons]

/-- A proposal that joins its group counts the rules that contributed to it, and
nothing else. -/
theorem foldl_merge_insert (id : Id) (o : Outcome) (groups : List Group) (usage : Usage) :
    (insert id o groups).foldl (fun u g => u.merge g.usage) usage =
      (groups.foldl (fun u g => u.merge g.usage) usage).addAll o.contributing := by
  induction groups generalizing usage with
  | nil => exact Usage.merge_addAll o.contributing usage []
  | cons g rest ih =>
    unfold insert
    split
    · have hpush : usage.merge (g.push id o).usage = (usage.merge g.usage).addAll o.contributing :=
        Usage.merge_addAll o.contributing usage g.usage
      rw [List.foldl_cons, hpush, foldl_merge_addAll, List.foldl_cons]
    · rw [List.foldl_cons, ih, List.foldl_cons]

/-- **The usages of groups put together** count every application of their
proposals, however the proposals are divided into groups. -/
theorem foldl_merge_ofOutcomes (outcomes : List (Id × Outcome)) (usage : Usage) :
    (ofOutcomes outcomes).foldl (fun u g => u.merge g.usage) usage =
      usage.addAll (applications outcomes) := by
  induction outcomes using List.reverseRecOn with
  | nil => rfl
  | append_singleton outcomes e ih =>
    obtain ⟨id, o⟩ := e
    have hsnoc : applications (outcomes ++ [(id, o)]) =
        applications outcomes ++ if o.isEmpty then [] else o.contributing := by
      unfold applications
      rw [List.flatMap_append, List.flatMap_singleton]
    rw [ofOutcomes_append, hsnoc]
    split
    · rw [ih, List.append_nil]
    · rw [foldl_merge_insert, ih]
      exact List.foldl_append.symm

/-- **In another order proposals are counted alike.** The groups themselves may
stand in another order then, which the sum does not show. -/
theorem foldl_merge_perm (h : outcomes.Perm outcomes') (usage : Usage) :
    (ofOutcomes outcomes).foldl (fun u g => u.merge g.usage) usage =
      (ofOutcomes outcomes').foldl (fun u g => u.merge g.usage) usage := by
  rw [foldl_merge_ofOutcomes, foldl_merge_ofOutcomes]
  exact Usage.addAll_perm (h.flatMap_right _) usage

/-! ### Pairs and transactions -/

/-- The groups have the pairs of the proposals that are not empty. -/
theorem mem_map_key_ofOutcomes {pair : Option Int64 × Option String} :
    pair ∈ (ofOutcomes outcomes).map key ↔
      ∃ e ∈ outcomes, e.2.isEmpty = false ∧ e.2.pair = pair := by
  induction outcomes using List.reverseRecOn with
  | nil => simp [ofOutcomes]
  | append_singleton outcomes e ih =>
    obtain ⟨id, o⟩ := e
    rw [ofOutcomes_append]
    split
    · rename_i ho
      simp [ih, ho]
    · rename_i ho
      have hkeys : pair ∈ (insert id o (ofOutcomes outcomes)).map key ↔
          pair ∈ (ofOutcomes outcomes).map key ∨ o.pair = pair := by
        rw [map_key_insert]
        split
        · rename_i hmem
          exact ⟨.inl, fun h => h.elim (fun h => h) fun he => he ▸ hmem⟩
        · rw [List.mem_append, List.mem_singleton, eq_comm (a := pair)]
      rw [hkeys, ih]
      simp [ho, or_and_right, exists_or]

/-- In another order the same pairs have a group. -/
theorem map_key_perm (h : outcomes.Perm outcomes') :
    ((ofOutcomes outcomes).map key).Perm ((ofOutcomes outcomes').map key) := by
  refine (List.perm_ext_iff_of_nodup (divides_ofOutcomes outcomes).keys
    (divides_ofOutcomes outcomes').keys).2 fun pair => ?_
  simp only [mem_map_key_ofOutcomes, h.mem_iff]

/-- A transaction is in a group with the pair that is proposed for it. -/
theorem exists_group_iff {pair : Option Int64 × Option String} :
    (∃ g ∈ ofOutcomes outcomes, g.key = pair ∧ id ∈ g.transactions) ↔
      ∃ o, (id, o) ∈ outcomes ∧ o.isEmpty = false ∧ o.pair = pair := by
  have hdiv := divides_ofOutcomes outcomes
  constructor
  · rintro ⟨g, hg, rfl, hid⟩
    rw [hdiv.transactions g hg, mem_sharing] at hid
    obtain ⟨o, ho, hpair⟩ := hid
    refine ⟨o, ho, Bool.eq_false_iff.2 fun hempty => hdiv.proposes g hg ?_, hpair⟩
    rw [← hpair]
    exact Outcome.isEmpty_iff.1 hempty
  · rintro ⟨o, ho, hempty, rfl⟩
    obtain ⟨g, hg, hkey⟩ := List.mem_map.1 (hdiv.covers _ ho hempty)
    refine ⟨g, hg, hkey, ?_⟩
    rw [hdiv.transactions g hg, mem_sharing]
    exact ⟨o, ho, hkey.symm⟩

/-- No group is without a transaction, because a group comes up with the first
proposal of its pair. -/
theorem transactions_ne_nil {g : Group} (hg : g ∈ ofOutcomes outcomes) : g.transactions ≠ [] := by
  obtain ⟨e, he, -, hpair⟩ := mem_map_key_ofOutcomes.1 (List.mem_map_of_mem (f := key) hg)
  have hmem : e.1 ∈ g.transactions := by
    rw [(divides_ofOutcomes outcomes).transactions g hg, mem_sharing]
    exact ⟨e.2, he, hpair⟩
  exact List.ne_nil_of_mem hmem

/-- An insertion puts one transaction into the groups, into one of them or into
a new one. -/
theorem flatMap_insert_perm (id : Id) (o : Outcome) (groups : List Group) :
    ((insert id o groups).flatMap (·.transactions)).Perm
      (groups.flatMap (·.transactions) ++ [id]) := by
  induction groups with
  | nil => exact .refl _
  | cons g rest ih =>
    unfold insert
    split
    · rw [List.flatMap_cons, List.flatMap_cons]
      show (g.transactions ++ [id] ++ _).Perm _
      rw [List.append_assoc, List.append_assoc]
      exact List.perm_append_comm.append_left _
    · rw [List.flatMap_cons, List.flatMap_cons, List.append_assoc]
      exact ih.append_left _

/-- The transactions in the groups are those with a proposal. -/
theorem flatMap_ofOutcomes_perm (outcomes : List (Id × Outcome)) :
    ((ofOutcomes outcomes).flatMap (·.transactions)).Perm
      ((outcomes.filter (!·.2.isEmpty)).map Prod.fst) := by
  induction outcomes using List.reverseRecOn with
  | nil => exact .refl _
  | append_singleton outcomes e ih =>
    obtain ⟨id, o⟩ := e
    rw [ofOutcomes_append, List.filter_append, List.map_append]
    cases ho : o.isEmpty with
    | true => simpa [ho] using ih
    | false =>
      have hlast : ([(id, o)].filter (!·.2.isEmpty)).map Prod.fst = [id] := by simp [ho]
      rw [hlast]
      exact (flatMap_insert_perm id o _).trans (ih.append_right _)

/-- In another order the groups hold the same transactions. -/
theorem flatMap_perm (h : outcomes.Perm outcomes') :
    ((ofOutcomes outcomes).flatMap (·.transactions)).Perm
      ((ofOutcomes outcomes').flatMap (·.transactions)) :=
  (flatMap_ofOutcomes_perm outcomes).trans
    (((h.filter _).map _).trans (flatMap_ofOutcomes_perm outcomes').symm)

end Group
end LedgerRules
