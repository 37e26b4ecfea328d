/-
# Which rules are counted

The rules that an outcome names are among those that were looked at, grouping
passes them on, and usages that are put together name no others.  So whatever
holds of the identifiers of the rules that are applied holds of every rule that
is counted in the end (`names_ofRules`, `names_ofOutcomes`).
-/

import LedgerRules.Outcome.Group
import Mathlib.Data.List.Induction

namespace LedgerRules

variable {P : Id → Prop}

/-- The rules that an outcome names all have a property, such as that they
belong to a user. -/
structure Outcome.Names (P : Id → Prop) (o : Outcome) : Prop where
  category : ∀ id, o.categoryRule = some id → P id
  merchant : ∀ id, o.merchantRule = some id → P id

/-- The rules that a usage counts all have a property.  Every rule whose counter
a run changes is one of them. -/
def Usage.Names (P : Id → Prop) (usage : Usage) : Prop := ∀ e ∈ usage, P e.1

namespace Outcome

variable {o : Outcome} {rule : Rule} {rules : List Rule}

/-- An outcome without targets names no rule. -/
theorem names_nothing : nothing.Names P := ⟨nofun, nofun⟩

/-- A rule that is looked at adds at most its own name. -/
theorem Names.fill (h : o.Names P) (hr : P rule.id) : (o.fill rule).Names P := by
  have hid : ∀ id, some rule.id = some id → P id := fun id he => Option.some.inj he ▸ hr
  unfold Outcome.fill
  dsimp only
  split <;> split
  · exact ⟨hid, hid⟩
  · exact ⟨h.category, hid⟩
  · exact ⟨hid, h.merchant⟩
  · exact h

/-- Rules that are looked at one after the other add at most their own names. -/
theorem Names.extend (h : o.Names P) (facts : Facts) (hr : ∀ r ∈ rules, P r.id) :
    (o.extend facts rules).Names P := by
  induction rules generalizing o with
  | nil => exact h
  | cons rule rules ih =>
    obtain ⟨hhead, htail⟩ := List.forall_mem_cons.1 hr
    unfold Outcome.extend
    split
    · exact h
    · split
      · exact ih (h.fill hhead) htail
      · exact ih h htail

/-- An outcome names rules that were looked at. -/
theorem names_ofRules (facts : Facts) (hr : ∀ r ∈ rules, P r.id) : (ofRules rules facts).Names P :=
  names_nothing.extend facts hr

/-- Taking out the targets that were set by hand adds no name. -/
theorem Names.withoutManual (h : o.Names P) (categoryManual merchantManual : Bool) :
    (o.withoutManual categoryManual merchantManual).Names P := by
  refine ⟨fun id hid => h.category id ?_, fun id hid => h.merchant id ?_⟩
  · cases categoryManual with
    | true => cases hid
    | false => exact hid
  · cases merchantManual with
    | true => cases hid
    | false => exact hid

/-- The rules that contributed to an outcome are among those it names. -/
theorem Names.contributing (h : o.Names P) : ∀ id ∈ o.contributing, P id := by
  intro id hid
  unfold Outcome.contributing at hid
  split at hid
  · rename_i a b ha hb
    have hab : id = a ∨ id = b := by
      split at hid
      · exact .inl (List.mem_singleton.1 hid)
      · simpa using hid
    rcases hab with rfl | rfl
    · exact h.category id ha
    · exact h.merchant id hb
  · rw [List.mem_append, Option.mem_toList, Option.mem_toList] at hid
    exact hid.elim (h.category id) (h.merchant id)

end Outcome

namespace Usage

variable {usage more : Usage} {rule : Id} {n : Nat}

/-- Counting a rule adds that rule at most. -/
theorem Names.add (h : usage.Names P) (hr : P rule) (n : Nat) : (usage.add rule n).Names P := by
  induction usage with
  | nil => exact List.forall_mem_singleton.2 hr
  | cons entry rest ih =>
    obtain ⟨hhead, htail⟩ := List.forall_mem_cons.1 h
    unfold Usage.add
    split
    · exact List.forall_mem_cons.2 ⟨hhead, htail⟩
    · split
      · exact List.forall_mem_cons.2 ⟨hr, h⟩
      · exact List.forall_mem_cons.2 ⟨hhead, ih htail⟩

/-- The same count for each of several rules. -/
theorem Names.foldl_add (h : usage.Names P) {rules : List Id} (hr : ∀ id ∈ rules, P id) (n : Nat) :
    (rules.foldl (fun usage rule => usage.add rule n) usage).Names P := by
  induction rules generalizing usage with
  | nil => exact h
  | cons id rules ih =>
    obtain ⟨hhead, htail⟩ := List.forall_mem_cons.1 hr
    exact ih (h.add hhead n) htail

/-- Usages that are put together count no other rules than they did apart. -/
theorem Names.merge (h : usage.Names P) (hm : more.Names P) : (usage.merge more).Names P := by
  unfold Usage.merge
  induction more generalizing usage with
  | nil => exact h
  | cons entry more ih =>
    obtain ⟨hhead, htail⟩ := List.forall_mem_cons.1 hm
    exact ih (h.add hhead entry.2) htail

end Usage

namespace Group

variable {groups : List Group} {o : Outcome}

/-- A proposal that joins a group adds the rules that it names to those that the
group counts. -/
theorem names_insert (h : ∀ g ∈ groups, g.usage.Names P) (id : Id) (ho : o.Names P) :
    ∀ g ∈ insert id o groups, g.usage.Names P := by
  have hpush : ∀ g : Group, g.usage.Names P → (g.push id o).usage.Names P :=
    fun g hg => hg.foldl_add ho.contributing 1
  induction groups with
  | nil => exact List.forall_mem_singleton.2 (hpush _ fun _ he => absurd he List.not_mem_nil)
  | cons g rest ih =>
    obtain ⟨hhead, htail⟩ := List.forall_mem_cons.1 h
    unfold insert
    split
    · exact List.forall_mem_cons.2 ⟨hpush g hhead, htail⟩
    · exact List.forall_mem_cons.2 ⟨hhead, ih htail⟩

/-- Groups count rules that their outcomes name. -/
theorem names_ofOutcomes {outcomes : List (Id × Outcome)} (h : ∀ e ∈ outcomes, e.2.Names P) :
    ∀ g ∈ ofOutcomes outcomes, g.usage.Names P := by
  induction outcomes using List.reverseRecOn with
  | nil => exact fun _ hg => absurd hg List.not_mem_nil
  | append_singleton outcomes e ih =>
    have ih := ih fun e' he' => h e' (List.mem_append_left _ he')
    unfold ofOutcomes at ih ⊢
    rw [List.foldl_append, List.foldl_cons, List.foldl_nil]
    dsimp only
    split
    · exact ih
    · exact names_insert ih e.1 (h e (List.mem_append_right _ (List.mem_singleton_self e)))

end Group
end LedgerRules
