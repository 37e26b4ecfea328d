/-
# The direction code and the sign of the amount

Rules see the size of an amount; whether the money went out or came in they see
in the direction code.  A transaction that is recorded without a code gets the
one that its amount implies.  After that nothing changes the code, but an edit
may change the amount.  So the codes of all transactions are those of their
amounts as long as no edit turns the sign of an amount, and the first that does
leaves a code that is wrong (`directions_code_signs_until_turned`).
-/

import LedgerRules.Proofs.Program.Recording

namespace LedgerRules

/-- The direction code of every transaction is the one that the sign of its
amount implies (`direction_for_amount`). -/
def Memory.CodesSigns (m : Memory) : Prop :=
  ∀ t ∈ m.transactions, t.direction = some (directionOf t.amount)

namespace Turn

/-- The operation records a transaction with a direction code of its own.  Such
a code is kept even if the sign of the amount says otherwise. -/
def GivesDirection (e : Turn) : Prop :=
  ∃ new, e.operation = .addTransaction new ∧ new.direction ≠ none

/-- The operation edits a transaction, and the new amount has the other sign.
An edit leaves the direction as it was, so the two no longer agree. -/
def TurnsSign (e : Turn) (m : Memory) : Prop :=
  ∃ id update t amount, e.operation = .updateTransaction id update ∧
    m.transaction? e.user id = some t ∧ update.amount = some amount ∧
    directionOf amount ≠ directionOf t.amount

/-- If the operation edits this transaction, the sign stays.  Operations on
other transactions are free. -/
def KeepsSign (e : Turn) (t : Transaction) : Prop :=
  ∀ update amount, e.operation = .updateTransaction t.id update → t.user = e.user →
    update.amount = some amount → directionOf amount = directionOf t.amount

end Turn

variable {e : Turn} {m m' : Memory} {t t' : Transaction}

/-- What a step makes of a transaction whose sign stays is still coded right. -/
theorem Memory.Changed.codesSign (h : m.Changed e.backfillIncludesManual e.user e.operation t t')
    (hc : t.direction = some (directionOf t.amount)) (hk : e.KeepsSign t) :
    t'.direction = some (directionOf t'.amount) ∧ e.KeepsSign t' := by
  cases h with
  | kept => exact ⟨hc, hk⟩
  | @edited update hop hu now =>
    have ht' : ∀ amount, update.amount.getD t.amount = amount →
        directionOf amount = directionOf t.amount := by
      rintro amount rfl
      cases ha : update.amount with
      | none => rfl
      | some a => exact hk update a hop hu ha
    have hsame := ht' _ rfl
    refine ⟨hc.trans (congrArg some hsame.symm), fun update' amount hop' hu' ha => ?_⟩
    exact (hk update' amount hop' hu' ha).trans hsame.symm
  | classified _ _ _ => exact ⟨hc, hk⟩
  | reapplied _ _ _ => exact ⟨hc, hk⟩

/-- A transaction that is entered without a code of its own is coded right. -/
theorem Memory.Entered.codesSign (h : m.Entered e.user e.operation t) (he : ¬e.GivesDirection) :
    t.direction = some (directionOf t.amount) ∧ e.KeepsSign t := by
  obtain ⟨user, op, cfg⟩ := e
  cases h with
  | @mk new account id today now _ _ =>
    have hnone : new.direction = none := by
      by_contra hne
      exact he ⟨new, rfl, hne⟩
    refine ⟨?_, fun update amount hop => Operation.noConfusion hop⟩
    unfold NewTransaction.transaction
    rw [hnone]
    rfl

/-- **One step keeps the codes right** if its operation turns no sign.  Rules do
not touch amounts or directions. -/
theorem Memory.Step.codesSigns (hs : Step e.backfillIncludesManual e.user e.operation m m')
    (hd : m.Distinct) (he : ¬e.GivesDirection)
    (h : ∀ t ∈ m.transactions, t.direction = some (directionOf t.amount) ∧ e.KeepsSign t) :
    ∀ t ∈ m'.transactions, t.direction = some (directionOf t.amount) ∧ e.KeepsSign t := by
  intro t' ht'
  rcases hs.transactions hd with hall | ⟨s, hin, hm'⟩
  · obtain ⟨t, ht, hc⟩ := exists_of_forall₂ hall.flip t' ht'
    obtain ⟨hcode, hkeep⟩ := h t ht
    exact Memory.Changed.codesSign hc hcode hkeep
  · rw [hm', List.mem_append, List.mem_singleton] at ht'
    rcases ht' with ht' | rfl
    · exact h t' ht'
    · exact hin.codesSign he

namespace Turn

variable {w : World Memory}

/-- A whole operation that turns no sign keeps the codes right. -/
theorem codesSigns_after (hd : w.store.Distinct) (h : w.store.CodesSigns) (he : ¬e.GivesDirection)
    (hno : ¬e.TurnsSign w.store) : (e.after w).store.CodesSigns := by
  have hkeep : ∀ t ∈ w.store.transactions, e.KeepsSign t := by
    intro t ht update amount hop hu ha
    by_contra hne
    have hfind := hd.transaction?_eq ht
    rw [hu] at hfind
    exact hno ⟨t.id, update, t, amount, hop, hfind, ha, hne⟩
  have hinv : (e.after w).store.Distinct ∧ ∀ t ∈ (e.after w).store.transactions,
      t.direction = some (directionOf t.amount) ∧ e.KeepsSign t :=
    e.after_induction (I := fun m => m.Distinct ∧ ∀ t ∈ m.transactions,
      t.direction = some (directionOf t.amount) ∧ e.KeepsSign t)
      ⟨hd, fun t ht => ⟨h t ht, hkeep t ht⟩⟩ fun m m' hs hI =>
      ⟨hs.distinct hI.1, hs.codesSigns hI.1 he hI.2⟩
  exact fun t ht => (hinv.2 t ht).1

/-- The row that an edit stores is in the store after it, up to targets and
times. -/
theorem exists_edited {id : Id} {update : TransactionUpdate} {old : Transaction}
    (hop : e.operation = .updateTransaction id update)
    (ho : w.store.transaction? e.user id = some old) :
    ∃ t ∈ (e.after w).store.transactions,
      t.amount = update.amount.getD old.amount ∧ t.direction = old.direction := by
  have hrun : ∃ r, w.store.Edits e.user id update r (e.after w).store := by
    have hafter : e.after w = ((Action.updateTransaction e.user id update).run w).2 := by
      unfold Turn.after Turn.run
      rw [hop]
      exact Action.run_map_snd Reply.transaction _ w
    rw [hafter]
    exact ⟨_, Action.updateTransaction_yields e.user id update w⟩
  obtain ⟨r, h⟩ := hrun
  generalize (e.after w).store = m' at h ⊢
  cases h with
  | missing h => exact absurd (h.symm.trans ho) nofun
  | @stored _ old' row now _ ho' hrow h =>
    obtain rfl := Option.some.inj (ho'.symm.trans ho)
    obtain ⟨-, hid, hu⟩ := Memory.transaction?_mem ho
    subst hrow
    obtain ⟨rfl, hu'⟩ := And.intro hid hu
    have hback := Memory.transaction?_putBack
      (t := { update.apply old' with updatedAt := now }) (hu' ▸ ho)
    have hin := (Memory.transaction?_mem hback).1
    have hclass : ∀ {r m'}, (w.store.putBack { update.apply old' with updatedAt := now }).Classifies
        e.user old'.id r m' → ∃ t ∈ m'.transactions,
          t.amount = update.amount.getD old'.amount ∧ t.direction = old'.direction := by
      intro r m' hc
      obtain ⟨t, ht, he⟩ := exists_of_forall₂ hc.sameButTargets _ hin
      refine ⟨t, ht, ?_⟩
      rw [he]
      exact ⟨rfl, rfl⟩
    cases h with
    | refused _ hc => exact hclass hc
    | classified _ hc _ => exact hclass hc
    | plain _ _ => exact ⟨_, hin, rfl, rfl⟩

/-- An operation that turns a sign leaves a code that is wrong. -/
theorem not_codesSigns_after (h : w.store.CodesSigns) (ht : e.TurnsSign w.store) :
    ¬(e.after w).store.CodesSigns := by
  intro hafter
  obtain ⟨id, update, t, amount, hop, hfind, ha, hne⟩ := ht
  obtain ⟨t', ht', hamount, hdir⟩ := exists_edited hop hfind
  rw [ha, Option.getD_some] at hamount
  have hcode := hafter t' ht'
  rw [hamount, hdir, h t (Memory.transaction?_mem hfind).1] at hcode
  exact hne (Option.some.inj hcode).symm

end Turn

/-! ### Runs -/

/-- The worlds that a run leads to all of whose operations are allowed where
they are made.  What is allowed may depend on the store. -/
inductive ReachableBy (allowed : Turn → Memory → Prop) : World Memory → Prop
  | start (failing : List (Option Int64 × Option String)) (journal : Option (Author × Journal))
      (notices : List Error) (supply : Supply) :
    ReachableBy allowed { store := { failing }, journal, notices, supply }
  | choose {w : World Memory} (h : ReachableBy allowed w)
      (failing : List (Option Int64 × Option String)) :
    ReachableBy allowed (w.withStore { w.store with failing })
  | next {w : World Memory} (h : ReachableBy allowed w) (e : Turn) (he : allowed e w.store) :
    ReachableBy allowed (e.after w)

/-- Such a world is reached by a run. -/
theorem ReachableBy.reachable {allowed : Turn → Memory → Prop} {w : World Memory}
    (h : ReachableBy allowed w) : Reachable w := by
  induction h with
  | start failing journal notices supply => exact .start failing journal notices supply
  | choose _ failing ih => exact ih.choose failing
  | next _ e _ ih => exact ih.next e

/-- **The direction codes are those of the amounts exactly until an edit turns a
sign.** In a run that records no transaction with a code of its own, every
stored transaction is coded right as long as no edit gives an amount of the
other sign, and the operation that comes next keeps it so if and only if it is
no such edit. -/
theorem directions_code_signs_until_turned {w : World Memory}
    (h : ReachableBy (fun e m => ¬e.GivesDirection ∧ ¬e.TurnsSign m) w) :
    w.store.CodesSigns ∧ ∀ e : Turn, ¬e.GivesDirection →
      ((e.after w).store.CodesSigns ↔ ¬e.TurnsSign w.store) := by
  have hcodes : w.store.CodesSigns := by
    induction h with
    | start _ _ _ _ => exact fun t ht => absurd ht List.not_mem_nil
    | choose _ _ ih => exact ih
    | next hw e he ih => exact Turn.codesSigns_after hw.reachable.distinct ih he.1 he.2
  refine ⟨hcodes, fun e he => ⟨fun hafter hturn => ?_, fun hno => ?_⟩⟩
  · exact Turn.not_codesSigns_after hcodes hturn hafter
  · exact Turn.codesSigns_after h.reachable.distinct hcodes he hno

namespace Sample

/-- A request to record an expense of five. -/
def expense : Operation :=
  .addTransaction { account := ⟨0#128⟩, amount := .ofInt32 (-5) }

/-- The world after it was recorded. -/
def spent : World Memory := [⟨"ana", .addAccount { name := "cash" }, false⟩,
  ⟨"ana", expense, false⟩].foldl (fun w e => Turn.after e w) start

/-- The expense turns out to be a refund. -/
def refund : Turn :=
  ⟨"ana", .updateTransaction ⟨1#128⟩ { amount := some (.ofInt32 5) }, false⟩

/-- Recording an expense gives no code of its own and turns no sign. -/
theorem reachableBy_spent :
    ReachableBy (fun e m => ¬e.GivesDirection ∧ ¬e.TurnsSign m) spent := by
  refine .next (.next (.start _ _ _ _) _ ?account) _ ?expense
  case account => exact ⟨fun ⟨_, h, _⟩ => Operation.noConfusion h, fun ⟨_, _, _, _, h, _⟩ =>
    Operation.noConfusion h⟩
  case expense =>
    refine ⟨?_, fun ⟨_, _, _, _, h, _⟩ => Operation.noConfusion h⟩
    rintro ⟨new, h, hnone⟩
    cases h
    exact hnone rfl

/-- The refund gives the expense an amount of the other sign. -/
theorem refund_turnsSign : refund.TurnsSign spent.store := by
  have hfind : (spent.store.transaction? "ana" ⟨1#128⟩).map (directionOf ·.amount) = some 0 := by
    decide +kernel
  obtain ⟨t, ht, hcode⟩ := Option.map_eq_some_iff.1 hfind
  refine ⟨_, _, t, _, rfl, ht, rfl, ?_⟩
  rw [hcode]
  decide

end Sample

/-- The refund of an expense keeps the code of money going out, so rules go on
to see it as an expense. -/
theorem refund_keeps_code_of_expense :
    ReachableBy (fun e m => ¬e.GivesDirection ∧ ¬e.TurnsSign m) Sample.spent ∧
      Sample.spent.store.CodesSigns ∧ ¬(Sample.refund.after Sample.spent).store.CodesSigns := by
  obtain ⟨hcodes, hnext⟩ := directions_code_signs_until_turned Sample.reachableBy_spent
  refine ⟨Sample.reachableBy_spent, hcodes, fun h => (hnext Sample.refund ?_).1 h ?_⟩
  · rintro ⟨new, h, -⟩
    cases h
  · exact Sample.refund_turnsSign

end LedgerRules
