/-
# What a request does to a transaction

A transaction is changed in two ways: a row is stored in its place, or a grouped
write that reaches it gives it targets.  A request that stores no row never
changes what is marked as set by hand (`Request.Touches.target`).

`Memory.Holds` says of a store that a transaction is in it, with a row of which
something is true.  Whether the requests of an application of rules keep that
depends on what they do to this one row, and whether they see it depends on its
identifier alone (`Contract.upholds_holds`).
-/

import LedgerRules.Proofs.Program.Manual
import LedgerRules.Proofs.Program.Proposing
import LedgerRules.Proofs.Program.Recording
import LedgerRules.Proofs.Store.Writes

namespace LedgerRules

namespace Request

/-- Whether a request stores a row of a transaction as a whole, which may take
back what happened since it was read. -/
def storesRow : Request → Bool
  | .call (.insertTransaction _) => true
  | .call (.updateTransaction _) => true
  | _ => false

/-- Whether a request reads a transaction of a user.  A bulk run without a list
of identifiers reads all of them. -/
def reads (user : String) (id : Id) : Request → Bool
  | .call (.getTransaction user' id') => user' == user && id' == id
  | .call (.eligible user' ids _) => user' == user && ids.all (·.contains id)
  | _ => false

/-- What a request gives a target of a transaction of a user.  Only grouped
writes give something without storing a row. -/
def gives {β : Type} (target : Target β) (user : String) (id : Id) : Request → Option β
  | .call (.assign user' category merchant ids _) =>
    if user' == user && ids.contains id then target.proposed { category, merchant } else none
  | _ => none

/-- What a request that stores no row makes of a transaction: it stays, or a
grouped write reaches it.  There is no third way, since a grouped write is the
only other statement on transactions. -/
inductive Touches (r : Request) (t : Transaction) : Transaction → Prop
  | kept : Touches r t t
  | assigned {user : String} {category : Option Int64} {merchant : Option String} {ids : List Id}
      {now : Instant} (hr : r = .call (.assign user category merchant ids now))
      (h : Memory.reaches user ids t = true) : Touches r t (t.assign category merchant now)

variable {r : Request}

/-- A request that stores no row touches each transaction in its place. -/
theorem touches_answer (h : r.storesRow = false) (w : World Memory) :
    List.Forall₂ r.Touches w.store.transactions (w.answer r).2.store.transactions := by
  have hkept : List.Forall₂ r.Touches w.store.transactions w.store.transactions :=
    List.forall₂_same.2 fun _ _ => .kept
  cases r with
  | now | freshId | notice _ => exact hkept
  | record event =>
    show List.Forall₂ _ _ (w.record event).store.transactions
    rw [World.record_store]
    exact hkept
  | call c =>
    have hw := w.store.wrote_answer c
    show List.Forall₂ _ _ (w.store.answer c).2.transactions
    generalize (w.store.answer c).1.isOk = ok at hw
    generalize (w.store.answer c).2 = m' at hw ⊢
    cases hw with
    | transactionAdded | transactionReplaced => exact Bool.noConfusion h
    | groupAssigned =>
      refine List.forall₂_map_right_iff.2 (List.forall₂_same.2 fun t _ => ?_)
      split
      · rename_i ht
        exact .assigned rfl ht
      · exact .kept
    | ruleCounted rule count now =>
      rw [(w.store.sameButUsage_count rule count now).transactions]
      exact hkept
    | _ => exact hkept

/-- No request that stores no row sets or releases a mark, and a target changes
only to what the request gives it. -/
theorem Touches.target {β : Type} (target : Target β) {t t' : Transaction} (h : r.Touches t t') :
    target.manual t' = target.manual t ∧
      (target.value t' = target.value t ∨ target.value t' = r.gives target t.user t.id ∧
        (r.gives target t.user t.id).isSome = true) := by
  cases h with
  | kept => exact ⟨rfl, .inl rfl⟩
  | @assigned user category merchant ids now hr h =>
    subst hr
    refine ⟨target.manual_assign t { category, merchant } now, ?_⟩
    have hvalue := target.value_assign t { category, merchant } now
    obtain ⟨hu, hid⟩ := Memory.reaches_iff.1 h
    have hgives : (Request.call (.assign user category merchant ids now)).gives target t.user t.id =
        target.proposed { category, merchant } := if_pos (by simp [hu, hid])
    rw [hgives]
    cases hp : target.proposed { category, merchant } with
    | none =>
      rw [hp, Option.none_or] at hvalue
      exact .inl hvalue
    | some y =>
      rw [hp, Option.some_or] at hvalue
      exact .inr ⟨hvalue, rfl⟩

end Request

/-- Storing a row succeeds where there is one to replace. -/
theorem answer_updateTransaction {w : World Memory} {row : Transaction}
    (h : (w.store.transaction? row.user row.id).isSome = true) :
    w.answer (.call (.updateTransaction row)) = (.ok (), w.withStore (w.store.putBack row)) := by
  obtain ⟨old, hold⟩ := Option.isSome_iff_exists.1 h
  show ((w.store.answer (.updateTransaction row)).1,
    w.withStore (w.store.answer (.updateTransaction row)).2) = _
  rw [Memory.answer_updateTransaction hold]
  rfl

/-! ### A transaction that stays -/

/-- The identifiers of transactions are distinct, and `P` holds of the stored
row of a transaction.  This is the invariant that two interleaved operations
keep together. -/
def Memory.Holds (m : Memory) (t : Transaction) (P : Transaction → Prop) : Prop :=
  m.Distinct ∧ ∃ s ∈ m.transactions, s.id = t.id ∧ s.user = t.user ∧ P s

variable {t : Transaction} {P : Transaction → Prop}

/-- The row of a transaction is the one that a search finds. -/
theorem Memory.Holds.find {m : Memory} (h : m.Holds t P) :
    ∃ s, m.transaction? t.user t.id = some s ∧ s.id = t.id ∧ s.user = t.user ∧ P s := by
  obtain ⟨hd, s, hs, hid, hu, hP⟩ := h
  refine ⟨s, ?_, hid, hu, hP⟩
  rw [← hid, ← hu]
  exact hd.transaction?_eq hs

/-- There is no other row with its identifier. -/
theorem Memory.Holds.of_id {m : Memory} (h : m.Holds t P) {s : Transaction}
    (hs : s ∈ m.transactions) (hid : s.id = t.id) : s.user = t.user ∧ P s := by
  obtain ⟨hd, s', hs', hid', hu, hP⟩ := h
  obtain rfl := hd.eq_of_id hs hs' (hid.trans hid'.symm)
  exact ⟨hu, hP⟩

/-- A row that is stored in its place is the one that is held. -/
theorem Memory.Holds.putBack {m : Memory} (h : m.Holds t P) {row : Transaction}
    (hid : row.id = t.id) (hu : row.user = t.user) {P' : Transaction → Prop} (hP : P' row) :
    (m.putBack row).Holds t P' := by
  obtain ⟨old, hold, -⟩ := h.find
  rw [← hid, ← hu] at hold
  have hsame : List.Forall₂ (fun s s' : Transaction => s'.id = s.id) m.transactions
      (m.putBack row).transactions := by
    refine forall₂_modifyFirst (R := fun s s' : Transaction => s'.id = s.id)
      (fun _ => rfl) fun s hs => ?_
    exact (Memory.transaction?_mem hs).2.1.symm
  refine ⟨?_, row, (Memory.transaction?_mem (Memory.transaction?_putBack hold)).1, hid, hu, hP⟩
  exact h.1.congr (map_eq_of_forall₂ (fun _ _ h => h) hsame)

/-- What follows from what is held is held. -/
theorem Memory.Holds.mono {m : Memory} {P' : Transaction → Prop} (h : m.Holds t P)
    (himp : ∀ s, P s → P' s) : m.Holds t P' := by
  obtain ⟨hd, s, hs, hid, hu, hP⟩ := h
  exact ⟨hd, s, hs, hid, hu, himp s hP⟩

/-- A request that stores no row keeps a condition on the row, if the condition
outlives what the request may make of it. -/
theorem Memory.Holds.answer {w : World Memory} {r : Request} (h : w.store.Holds t P)
    (hr : r.storesRow = false)
    (hP : ∀ s s', s.id = t.id → s.user = t.user → P s → r.Touches s s' → P s') :
    (w.answer r).2.store.Holds t P := by
  have htouch := Request.touches_answer hr w
  have hsame : ∀ s s', r.Touches s s' → s'.id = s.id ∧ s'.user = s.user := by
    intro s s' h
    cases h <;> exact ⟨rfl, rfl⟩
  obtain ⟨hd, s, hs, hid, hu, hPs⟩ := h
  obtain ⟨s', hs', ht⟩ := exists_of_forall₂ htouch s hs
  obtain ⟨hid', hu'⟩ := hsame s s' ht
  refine ⟨?_, s', hs', hid'.trans hid, hu'.trans hu, hP s s' hid hu hPs ht⟩
  exact hd.congr (map_eq_of_forall₂ (fun s s' h => (hsame s s' h).1) htouch)

/-! ### Applications of rules -/

namespace Contract

variable {sees : Transaction → Prop} {r : Request}

/-- An application of rules stores no row; all it writes are targets. -/
theorem storesRow_of_allows (h : (proposals sees).allows r) : r.storesRow = false := by
  unfold Request.storesRow
  split
  · exact h.elim
  · exact h.elim
  · rfl

/-- The answers of a store are as promised if `sees` holds of what a request
reads in it. -/
theorem promises_answer {w : World Memory}
    (h : ∀ t ∈ w.store.transactions, r.reads t.user t.id = true → sees t) :
    (proposals sees).promises r (w.answer r).1 := by
  unfold proposals
  dsimp only
  split
  · rename_i user id
    intro t ht
    obtain ⟨hmem, rfl, rfl⟩ := Memory.transaction?_mem (Except.ok.inj ht)
    exact h t hmem (by simp [Request.reads])
  · rename_i user ids includeManual
    intro ts hts t ht
    obtain rfl : w.store.eligibleOf user ids includeManual = ts := Except.ok.inj hts
    obtain ⟨hmem, rfl, -, hl⟩ := Memory.mem_eligibleOf.1 ht
    refine h t hmem ?_
    cases ids with
    | none => simp [Request.reads]
    | some l => simpa [Request.reads] using hl l rfl
  · trivial

/-- What the requests of an application do to one transaction decides what they
uphold. -/
theorem upholds_holds
    (hsees : ∀ s, s.id = t.id → P s → r.reads t.user t.id = true → sees s)
    (hother : ∀ s, s.id ≠ t.id → sees s)
    (hP : (proposals sees).allows r → ∀ s s', s.id = t.id → s.user = t.user → P s →
      r.Touches s s' → P s') :
    (proposals sees).Upholds (fun w : World Memory => w.store.Holds t P) r := by
  intro w hw ha
  refine ⟨promises_answer fun s hs hr => ?_, hw.answer (storesRow_of_allows ha) (hP ha)⟩
  by_cases hid : s.id = t.id
  · obtain ⟨hu, hPs⟩ := hw.of_id hs hid
    rw [hid, hu] at hr
    exact hsees s hid hPs hr
  · exact hother s hid

end Contract

end LedgerRules
