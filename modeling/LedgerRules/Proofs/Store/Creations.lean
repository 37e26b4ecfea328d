/-
# When records were created

Transactions and rules are listed by when they were created, where their dates
or priorities leave that open.  A time of creation comes into the store when a
record is inserted: `create_rule` and `add_transaction` take it from the clock,
and both stores leave it alone when a record is put back (`update_rule` and
`update_transaction` of the stores, which services call with what they have
read).  So the times of creation after a call are among those before it and that
of the record it inserts (`Wrote.creations`), each as often as there; and if no
two were the same, none are afterwards (`Wrote.staggered`).
-/

import LedgerRules.Proofs.Store.Writes
import Mathlib.Data.List.Perm.Subperm

namespace LedgerRules

/-- When the transaction or the rule was created that a call inserts.  Accounts
are listed by their names alone, so theirs are of no account. -/
def Call.createdAt? : Call → Option Instant
  | .insertTransaction t => some t.createdAt
  | .insertRule r => some r.createdAt
  | _ => none

/-- What the call puts back has the time of creation of the record in its
place.  Services call with what they have read, so their calls do. -/
def Call.KeepsCreation (m : Memory) : Call → Prop
  | .updateTransaction t =>
    ∀ old, m.transaction? t.user t.id = some old → t.createdAt = old.createdAt
  | .updateRule r => ∀ old, m.rule? r.user r.id = some old → r.createdAt = old.createdAt
  | _ => True

namespace Memory

variable {m m' : Memory} {c : Call} {ok : Bool} {at_ : Instant}

/-- When the transactions and the rules were created, in the order of the
tables.  These are the times by which lists are put in order where the first key
of their order leaves them level. -/
def creations (m : Memory) : List Instant :=
  m.transactions.map (·.createdAt) ++ m.rules.map (·.createdAt)

/-- No two transactions, no two rules, and no transaction and rule were created
at the same time.  A clock that never shows the same time twice keeps a store so
(`World.Mirrors.staggered`). -/
def Staggered (m : Memory) : Prop := m.creations.Nodup

/-- In a staggered store a transaction is told by when it was created. -/
theorem Staggered.transaction_eq (h : m.Staggered) {s t : Transaction} (hs : s ∈ m.transactions)
    (ht : t ∈ m.transactions) (he : s.createdAt = t.createdAt) : s = t :=
  List.inj_on_of_nodup_map (List.nodup_append.1 h).1 hs ht he

/-- In a staggered store a rule is told by when it was created, so no two rules
are level in their order. -/
theorem Staggered.rule_eq (h : m.Staggered) {r s : Rule} (hr : r ∈ m.rules) (hs : s ∈ m.rules)
    (he : r.createdAt = s.createdAt) : r = s :=
  List.inj_on_of_nodup_map (List.nodup_append.1 h).2.1 hr hs he

/-- A grouped write changes no time of creation, whatever it finds and writes. -/
theorem map_createdAt_assigned (user : String) (category : Option Int64) (merchant : Option String)
    (ids : List Id) (now : Instant) (l : List Transaction) :
    (l.map fun t => if reaches user ids t then t.assign category merchant now else t).map
      (·.createdAt) = l.map (·.createdAt) := by
  rw [List.map_map]
  refine List.map_congr_left fun t _ => ?_
  rw [Function.comp_apply]
  split <;> rfl

/-- **Times of creation come in by insertion only**, one with every record.  The
others are among those that were there; a deletion takes some of them out. -/
theorem Wrote.creations (h : m.Wrote c ok m') (hc : c.KeepsCreation m) :
    m'.creations.Subperm (c.createdAt?.toList ++ m.creations) := by
  unfold Memory.creations
  cases h with
  | transactionAdded =>
    dsimp only
    rw [List.map_append, List.append_assoc]
    exact List.perm_middle.subperm
  | ruleAdded =>
    dsimp only
    rw [List.map_append, ← List.append_assoc]
    exact (List.perm_append_singleton _ _).subperm
  | @transactionReplaced t old hold =>
    have hsame : ∀ s, m.transactions.find? (fun s => s.id == t.id && s.user == t.user) = some s →
        t.createdAt = s.createdAt := fun s hs => hc s hs
    have hkept := forall₂_modifyFirst (R := fun s t : Transaction => t.createdAt = s.createdAt)
      (fun _ => rfl) hsame
    dsimp only
    rw [map_eq_of_forall₂ (fun _ _ he => he) hkept]
    exact .refl _
  | @ruleReplaced r old hold =>
    have hsame : ∀ s, m.rules.find? (fun s => s.id == r.id && s.user == r.user) = some s →
        (s.replace r).createdAt = s.createdAt := fun s hs => hc s hs
    have hkept := forall₂_modifyFirst (R := fun r r' : Rule => r'.createdAt = r.createdAt)
      (fun _ => rfl) hsame
    dsimp only
    rw [map_eq_of_forall₂ (fun _ _ he => he) hkept]
    exact .refl _
  | groupAssigned =>
    dsimp only
    rw [map_createdAt_assigned]
    exact .refl _
  | rulesDeleted user id =>
    exact ((List.Sublist.refl _).append (List.filter_sublist.map _)).subperm
  | ruleCounted id count now =>
    have hsame := m.sameButUsage_count id count now
    rw [hsame.transactions, map_eq_of_forall₂ (fun r r' he => by rw [he]) hsame.rules]
    exact .refl _
  | _ => exact (List.sublist_append_right _ _).subperm

/-- A time of creation was there, or the call brings it in with the record that
it inserts. -/
theorem Wrote.mem_creations (h : m.Wrote c ok m') (hc : c.KeepsCreation m)
    (ht : at_ ∈ m'.creations) :
    at_ ∈ m.creations ∨ c.createdAt? = some at_ := by
  rcases List.mem_append.1 ((h.creations hc).subset ht) with hnew | hold
  · exact .inr (Option.mem_toList.1 hnew)
  · exact .inl hold

/-- **A call leaves a staggered store staggered** if the record that it inserts
was created at a time of its own. -/
theorem Wrote.staggered (h : m.Wrote c ok m') (hc : c.KeepsCreation m) (hm : m.Staggered)
    (hnew : ∀ t, c.createdAt? = some t → t ∉ m.creations) : m'.Staggered := by
  obtain ⟨l, hperm, hsub⟩ := h.creations hc
  refine hperm.nodup_iff.1 (List.Nodup.sublist hsub ?_)
  cases hcreated : c.createdAt? with
  | none => exact hm
  | some t => exact List.nodup_cons.2 ⟨hnew t hcreated, hm⟩

end Memory
end LedgerRules
