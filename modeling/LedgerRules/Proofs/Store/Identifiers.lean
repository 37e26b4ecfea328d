/-
# The identifiers in a store

Calls bring identifiers in by insertion only.  Whatever else they do, every
identifier in the store afterwards was there before or is the one that the call
inserts (`Wrote.mem_ids`), and those of transactions stay distinct
(`Wrote.distinct`).
-/

import LedgerRules.Proofs.Store.Writes

namespace LedgerRules

/-- The identifier of the record that a call inserts.  Every other call names
records that are there, or none. -/
def Call.newId? : Call → Option Id
  | .insertAccount a => some a.id
  | .insertTransaction t => some t.id
  | .insertRule r => some r.id
  | _ => none

namespace Memory

/-- The identifiers of all records, of whatever kind and user.  They are drawn
from one supply. -/
def ids (m : Memory) : List Id :=
  m.accounts.map (·.id) ++ m.transactions.map (·.id) ++ m.rules.map (·.id)

variable {m m' : Memory} {id : Id} {c : Call} {ok : Bool}

/-- An identifier is in a store if an account, a transaction or a rule has it. -/
theorem mem_ids : id ∈ m.ids ↔ (∃ a ∈ m.accounts, a.id = id) ∨ (∃ t ∈ m.transactions, t.id = id) ∨
    ∃ r ∈ m.rules, r.id = id := by
  unfold ids
  rw [List.mem_append, List.mem_append, List.mem_map, List.mem_map, List.mem_map, or_assoc]

/-- The identifiers of a list with one more element are the old ones and that of
the element. -/
theorem mem_map_id_concat {α : Type} {f : α → Id} {l : List α} {a : α} :
    id ∈ (l ++ [a]).map f ↔ id ∈ l.map f ∨ id = f a := by
  rw [List.map_append, List.mem_append, List.map_singleton, List.mem_singleton]

/-- **Calls keep the identifiers of transactions distinct**:
`insert_transaction` refuses one that is there, and no other call brings one in. -/
theorem Wrote.distinct (h : m.Wrote c ok m') (hd : m.Distinct) : m'.Distinct := by
  cases h with
  | transactionAdded hnew => exact nodup_map_concat hd hnew
  | transactionReplaced => exact hd.congr (map_id_putBack _ _)
  | groupAssigned => exact hd.congr (map_id_assigned _ _ _ _ _ _)
  | ruleCounted rule count now =>
    exact hd.congr (by rw [(m.sameButUsage_count rule count now).transactions])
  | _ => exact hd

/-- **Identifiers come in by insertion only**, so what is fresh stays fresh
until it is inserted. -/
theorem Wrote.mem_ids (hw : m.Wrote c ok m') (h : id ∈ m'.ids) :
    id ∈ m.ids ∨ c.newId? = some id := by
  unfold ids at h ⊢
  cases hw with
  | accountAdded a =>
    simp only [List.mem_append, mem_map_id_concat] at h ⊢
    obtain ((h | rfl) | h) | h := h
    · exact .inl (.inl (.inl h))
    · exact .inr rfl
    · exact .inl (.inl (.inr h))
    · exact .inl (.inr h)
  | transactionAdded =>
    simp only [List.mem_append, mem_map_id_concat] at h ⊢
    obtain (h | h | rfl) | h := h
    · exact .inl (.inl (.inl h))
    · exact .inl (.inl (.inr h))
    · exact .inr rfl
    · exact .inl (.inr h)
  | ruleAdded =>
    simp only [List.mem_append, mem_map_id_concat] at h ⊢
    obtain (h | h) | h | rfl := h
    · exact .inl (.inl (.inl h))
    · exact .inl (.inl (.inr h))
    · exact .inl (.inr h)
    · exact .inr rfl
  | transactionReplaced => exact .inl (by rwa [map_id_putBack] at h)
  | groupAssigned => exact .inl (by rwa [map_id_assigned] at h)
  | ruleReplaced => exact .inl (by rwa [map_id_replace] at h)
  | rulesDeleted user rule =>
    exact .inl (((List.Sublist.refl _).append (List.filter_sublist.map _)).subset h)
  | ruleCounted rule count now =>
    have hsame := m.sameButUsage_count rule count now
    refine .inl ?_
    rwa [hsame.accounts, hsame.transactions,
      map_eq_of_forall₂ (fun r r' h => by rw [h]) hsame.rules] at h
  | _ => exact .inl h

end Memory
end LedgerRules
