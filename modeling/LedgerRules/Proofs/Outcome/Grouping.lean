/-
# Groups divide what has a proposal

Grouping looks at proposals one after the other.  At every moment the groups
divide those seen so far (`Divides`): no two groups have the same pair of a
category and a merchant, a group holds exactly the transactions whose proposal
has its pair, in their order, and every proposal that is not empty has a group.
So where transactions have identifiers of their own, no transaction is in two
groups (`Divides.group_eq`).
-/

import LedgerRules.Outcome.Group
import Mathlib.Data.List.Induction
import Mathlib.Data.List.Nodup

namespace LedgerRules

/-- What an outcome proposes: its category and its merchant.  Which rules it is
from does not matter to what is written. -/
def Outcome.pair (o : Outcome) : Option Int64 × Option String := (o.category, o.merchant)

/-- An outcome is empty if it proposes neither target. -/
theorem Outcome.isEmpty_iff {o : Outcome} : o.isEmpty = true ↔ o.pair = (none, none) := by
  unfold isEmpty pair
  rw [Bool.and_eq_true, Option.isNone_iff_eq_none, Option.isNone_iff_eq_none, Prod.mk.injEq]

/-- A pair that is not empty gives a category or a merchant. -/
theorem isSome_or_isSome_of_ne {category : Option Int64} {merchant : Option String}
    (h : (category, merchant) ≠ (none, none)) :
    category.isSome = true ∨ merchant.isSome = true := by
  by_contra hnone
  rw [not_or, Option.not_isSome_iff_eq_none, Option.not_isSome_iff_eq_none] at hnone
  exact h (Prod.ext hnone.1 hnone.2)

namespace Group

/-- The pair of a group, which is what is written for all of its transactions. -/
def key (g : Group) : Option Int64 × Option String := (g.category, g.merchant)

variable {g : Group} {groups : List Group} {id : Id} {o : Outcome}

/-- An outcome fits a group if it proposes the group's pair. -/
theorem fits_iff : g.fits o = true ↔ g.key = o.pair := by
  unfold fits key Outcome.pair
  rw [Bool.and_eq_true, beq_iff_eq, beq_iff_eq, Prod.mk.injEq]

/-- A transaction that joins a group leaves its pair as it is. -/
@[simp]
theorem key_push : (g.push id o).key = g.key := rfl

/-- A new group has the pair of the proposal that it comes up with. -/
@[simp]
theorem key_single : (single id o).key = o.pair := rfl

/-- A pair that has a group gets no second one, and a new pair stands last. -/
theorem map_key_insert :
    (insert id o groups).map key =
      if o.pair ∈ groups.map key then groups.map key else groups.map key ++ [o.pair] := by
  induction groups with
  | nil => simp [insert]
  | cons g rest ih =>
    unfold insert
    split
    · rename_i h
      rw [List.map_cons, key_push, List.map_cons, if_pos]
      exact List.mem_cons.2 (.inl (fits_iff.1 h).symm)
    · rename_i h
      have hne : ¬o.pair = g.key := fun he => h (fits_iff.2 he.symm)
      rw [List.map_cons, List.map_cons, ih]
      by_cases hm : o.pair ∈ rest.map key
      · rw [if_pos hm, if_pos (List.mem_cons_of_mem _ hm)]
      · rw [if_neg hm, if_neg (by simpa [hne] using hm)]
        rfl

/-- A group after an insertion: another one as it was, the fitting one with the
transaction, or a new one where none fits. -/
theorem mem_insert (hk : (groups.map key).Nodup) (h : g ∈ insert id o groups) :
    (g ∈ groups ∧ g.key ≠ o.pair) ∨
      (∃ g₀ ∈ groups, g₀.key = o.pair ∧ g = g₀.push id o) ∨
      (g = single id o ∧ o.pair ∉ groups.map key) := by
  induction groups with
  | nil =>
    rw [insert, List.mem_singleton] at h
    exact .inr (.inr ⟨h, List.not_mem_nil⟩)
  | cons g₁ rest ih =>
    rw [List.map_cons, List.nodup_cons] at hk
    unfold insert at h
    split at h
    · rename_i hf
      rw [fits_iff] at hf
      rcases List.mem_cons.1 h with rfl | h
      · exact .inr (.inl ⟨g₁, List.mem_cons_self .., hf, rfl⟩)
      · refine .inl ⟨List.mem_cons_of_mem _ h, fun he => hk.1 ?_⟩
        rw [hf, ← he]
        exact List.mem_map_of_mem h
    · rename_i hf
      rw [fits_iff] at hf
      rcases List.mem_cons.1 h with rfl | h
      · exact .inl ⟨List.mem_cons_self .., hf⟩
      · rcases ih hk.2 h with ⟨hm, hne⟩ | ⟨g₀, hm, he, rfl⟩ | ⟨rfl, hn⟩
        · exact .inl ⟨List.mem_cons_of_mem _ hm, hne⟩
        · exact .inr (.inl ⟨g₀, List.mem_cons_of_mem _ hm, he, rfl⟩)
        · exact .inr (.inr ⟨rfl, by simpa [Ne.symm hf] using hn⟩)

/-- The transactions whose proposal has a pair, in their order.  They are
written by one statement. -/
def sharing (pair : Option Int64 × Option String) (outcomes : List (Id × Outcome)) : List Id :=
  (outcomes.filter fun e => e.2.pair == pair).map Prod.fst

/-- A transaction shares a pair if that pair is proposed for it. -/
theorem mem_sharing {pair : Option Int64 × Option String} {outcomes : List (Id × Outcome)} :
    id ∈ sharing pair outcomes ↔ ∃ o, (id, o) ∈ outcomes ∧ o.pair = pair := by
  simp [sharing]

/-- The last proposal adds its transaction to those that share its pair, and to
no others. -/
theorem sharing_snoc {pair : Option Int64 × Option String} {outcomes : List (Id × Outcome)} :
    sharing pair (outcomes ++ [(id, o)]) =
      sharing pair outcomes ++ if o.pair = pair then [id] else [] := by
  unfold sharing
  rw [List.filter_append, List.map_append]
  by_cases h : o.pair = pair <;> simp [h]

/-- A pair that nothing proposes is shared by no transaction. -/
theorem sharing_eq_nil {pair : Option Int64 × Option String} {outcomes : List (Id × Outcome)}
    (h : ∀ e ∈ outcomes, e.2.pair ≠ pair) : sharing pair outcomes = [] := by
  unfold sharing
  rw [List.filter_eq_nil_iff.2 fun e he => by simpa using h e he, List.map_nil]

/-- The groups divide the proposals: no two groups have the same pair, none has
the empty one, every group holds exactly the transactions that share its pair,
and no proposal is left out but the empty ones. -/
structure Divides (groups : List Group) (outcomes : List (Id × Outcome)) : Prop where
  keys : (groups.map key).Nodup
  proposes : ∀ g ∈ groups, g.key ≠ (none, none)
  transactions : ∀ g ∈ groups, g.transactions = sharing g.key outcomes
  covers : ∀ e ∈ outcomes, e.2.isEmpty = false → e.2.pair ∈ groups.map key

namespace Divides

variable {outcomes : List (Id × Outcome)}

/-- No groups divide no proposals. -/
theorem nil : Divides [] [] :=
  ⟨List.nodup_nil, by simp, by simp, by simp⟩

/-- An empty proposal has no group. -/
theorem skip (h : Divides groups outcomes) (ho : o.isEmpty = true) :
    Divides groups (outcomes ++ [(id, o)]) where
  keys := h.keys
  proposes := h.proposes
  transactions g hg := by
    have hne : o.pair ≠ g.key := by
      rw [Outcome.isEmpty_iff.1 ho]
      exact (h.proposes g hg).symm
    rw [sharing_snoc, if_neg hne, List.append_nil, h.transactions g hg]
  covers e he hne := by
    rcases List.mem_append.1 he with he | he
    · exact h.covers e he hne
    · rw [List.mem_singleton.1 he, ho] at hne
      exact absurd hne Bool.noConfusion

/-- No proposal has the pair of a proposal that is not empty and has no group
yet.  So a new group has no transaction to make up for. -/
theorem pair_ne (h : Divides groups outcomes) (ho : o.isEmpty = false)
    (hn : o.pair ∉ groups.map key) : ∀ e ∈ outcomes, e.2.pair ≠ o.pair := by
  intro e he hp
  refine hn (hp ▸ h.covers e he (Bool.eq_false_iff.2 fun hempty => ?_))
  rw [Bool.eq_false_iff] at ho
  exact ho (Outcome.isEmpty_iff.2 (hp ▸ Outcome.isEmpty_iff.1 hempty))

/-- A proposal that is not empty joins the group of its pair. -/
theorem insert (h : Divides groups outcomes) (ho : o.isEmpty = false) :
    Divides (Group.insert id o groups) (outcomes ++ [(id, o)]) where
  keys := by
    rw [map_key_insert]
    split
    · exact h.keys
    · rename_i hn
      refine List.nodup_append.2 ⟨h.keys, List.nodup_singleton _, fun k hk k' hk' he => hn ?_⟩
      rwa [← List.mem_singleton.1 hk', ← he]
  proposes g hg := by
    rcases mem_insert h.keys hg with ⟨hm, -⟩ | ⟨g₀, hm, -, rfl⟩ | ⟨rfl, -⟩
    · exact h.proposes g hm
    · exact h.proposes g₀ hm
    · intro he
      rw [Outcome.isEmpty_iff.2 he] at ho
      exact Bool.noConfusion ho
  transactions g hg := by
    rw [sharing_snoc]
    rcases mem_insert h.keys hg with ⟨hm, hne⟩ | ⟨g₀, hm, he, rfl⟩ | ⟨rfl, hn⟩
    · rw [if_neg (Ne.symm hne), List.append_nil, h.transactions g hm]
    · rw [key_push, if_pos he.symm, ← h.transactions g₀ hm]
      rfl
    · rw [key_single, if_pos rfl, sharing_eq_nil (h.pair_ne ho hn)]
      rfl
  covers e he hne := by
    rw [map_key_insert]
    rcases List.mem_append.1 he with he | he
    · split
      · exact h.covers e he hne
      · exact List.mem_append_left _ (h.covers e he hne)
    · obtain rfl := List.mem_singleton.1 he
      split
      · assumption
      · exact List.mem_append_right _ (List.mem_singleton_self _)

/-- A transaction is in one group at most, if it has one proposal. -/
theorem group_eq (h : Divides groups outcomes) (hid : (outcomes.map Prod.fst).Nodup)
    {g₁ g₂ : Group} (h₁ : g₁ ∈ groups) (h₂ : g₂ ∈ groups) (hi₁ : id ∈ g₁.transactions)
    (hi₂ : id ∈ g₂.transactions) : g₁ = g₂ := by
  rw [h.transactions _ h₁, mem_sharing] at hi₁
  rw [h.transactions _ h₂, mem_sharing] at hi₂
  obtain ⟨o₁, ho₁, hk₁⟩ := hi₁
  obtain ⟨o₂, ho₂, hk₂⟩ := hi₂
  have ho : o₁ = o₂ := congrArg Prod.snd (List.inj_on_of_nodup_map hid ho₁ ho₂ rfl)
  exact List.inj_on_of_nodup_map h.keys h₁ h₂ (by rw [← hk₁, ← hk₂, ho])

end Divides

/-- **The groups of a list of proposals divide it.** By induction from the left,
since `group_outcomes` goes through the proposals in their order. -/
theorem divides_ofOutcomes (outcomes : List (Id × Outcome)) :
    Divides (ofOutcomes outcomes) outcomes := by
  induction outcomes using List.reverseRecOn with
  | nil => exact .nil
  | append_singleton outcomes e ih =>
    obtain ⟨id, o⟩ := e
    unfold ofOutcomes at ih ⊢
    rw [List.foldl_append, List.foldl_cons, List.foldl_nil]
    show Divides (if o.isEmpty = true then _ else Group.insert id o _) _
    split
    · rename_i ho
      exact ih.skip ho
    · rename_i ho
      exact ih.insert (Bool.eq_false_iff.2 ho)

end Group
end LedgerRules
