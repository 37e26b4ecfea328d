/-
# Runs of calls

Calls reach a store one after the other, from whoever makes them, and each sees
the store that the one before it left.  A call writes to one table at most
(`Call.table?`).

What a search for one element makes of a list that grows at its end, of which
some elements are taken out, or whose elements are changed in their places, is
told here once; the tables of both stores change in these ways.
-/

import LedgerRules.Store.Database.Basic

namespace LedgerRules

/-- The store after calls one after the other, whatever they answer.  Nothing is
assumed about who makes the calls, so this is also what several callers leave
whose calls are interleaved. -/
def Store.after {σ : Type} [Store σ] : List Call → σ → σ
  | [], s => s
  | c :: calls, s => after calls (Store.answer c s).2

/-- What each of the calls keeps holds after all of them: the induction over a
history of calls, made once. -/
theorem Store.after_keeps {σ : Type} [Store σ] {P : σ → Prop} {calls : List Call}
    (hkeep : ∀ c ∈ calls, ∀ s, P s → P (Store.answer c s).2) {s : σ} (h : P s) :
    P (Store.after calls s) := by
  induction calls generalizing s with
  | nil => exact h
  | cons c calls ih =>
    obtain ⟨hc, hcalls⟩ := List.forall_mem_cons.1 hkeep
    exact ih hcalls (hc s h)

/-- The table that a call may write to, if it writes to one.  No call writes to
two of them. -/
def Call.table? : Call → Option TableName
  | insertAccount _ => some .accounts
  | insertTransaction _ | updateTransaction _ | assign _ _ _ _ _ => some .transactions
  | insertRule _ | updateRule _ | deleteRule _ _ | recordApplications _ _ _ => some .rules
  | _ => none

/-! ### Searches -/

section Search

variable {α : Type} {p : α → Bool} {l : List α} {a : α}

/-- A search that found nothing finds what is put at the end. -/
theorem find?_append_new (hl : ∀ b ∈ l, p b = false) (ha : p a = true) :
    (l ++ [a]).find? p = some a := by
  have hnone : l.find? p = none := List.find?_eq_none.2 fun b hb => Bool.eq_false_iff.1 (hl b hb)
  rw [List.find?_append, hnone, Option.none_or, List.find?_cons_of_pos ha]

/-- A search that found something does not see what is put at the end. -/
theorem find?_append_of_some (h : l.find? p = some a) (rest : List α) :
    (l ++ rest).find? p = some a := by
  rw [List.find?_append, h, Option.some_or]

/-- Nor does it miss what is taken out, if that is not looked for. -/
theorem find?_filter_of_some {keep : α → Bool} (h : l.find? p = some a)
    (hkeep : ∀ b, p b = true → keep b = true) : (l.filter keep).find? p = some a := by
  rw [List.find?_filter, ← h]
  refine congrArg (List.find? · l) (funext fun b => ?_)
  cases hb : p b with
  | false => simp
  | true => simp [hkeep b hb]

/-- A change that leaves alone what is looked at is made to what is found. -/
theorem find?_map_of_some {change : α → α} (h : l.find? p = some a)
    (hchange : ∀ b, p (change b) = p b) : (l.map change).find? p = some (change a) := by
  have hsame : p ∘ change = p := funext hchange
  rw [List.find?_map, hsame, h, Option.map_some]

end Search
end LedgerRules
