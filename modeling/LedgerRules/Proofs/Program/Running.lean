/-
# What carrying out an action brings about

`Action.Yields a w Q` says that `Q` holds of the result of an action and of the
world it leaves behind.  An action is taken apart along its steps: `yields_bind`
goes on where the first step succeeds and keeps the error where it fails, and
every single request has the one answer that the world gives.  Only calls change
the store.
-/

import LedgerRules.Program.Basic

namespace LedgerRules

/-- The world with another store.  The clock, the identifiers and the journal go
on where they were. -/
def World.withStore {σ : Type} (w : World σ) (store : σ) : World σ := { w with store }

/-- The store of a world with another store is that one. -/
@[simp]
theorem World.withStore_store {σ : Type} (w : World σ) (store : σ) :
    (w.withStore store).store = store := rfl

/-- Putting an event on record leaves the store alone. -/
@[simp]
theorem World.record_store {σ : Type} (w : World σ) (event : Event) :
    (w.record event).store = w.store := by
  unfold World.record
  split <;> rfl

variable {σ α β : Type} [Store σ]

namespace Program

/-- A program that goes on is carried out one part after the other. -/
theorem run_bind (p : Program α) (f : α → Program β) (w : World σ) :
    (p.bind f).run w = (f (p.run w).1).run (p.run w).2 := by
  induction p generalizing w with
  | done result => rfl
  | ask request next ih => exact ih _ _

end Program

namespace Action

/-- Carried out in `w`, the action has a result and leaves a world of which `Q`
holds.  Actions are stated in this form throughout: the simp lemmas below take
an action apart from the outside in. -/
def Yields (a : Action α) (w : World σ) (Q : Except Error α → World σ → Prop) : Prop :=
  Q (a.run w).1 (a.run w).2

variable {a : Action α} {w : World σ} {Q Q' : Except Error α → World σ → Prop}

/-- An action that is carried out has a result and leaves a world. -/
theorem Yields.exists_run (h : a.Yields w Q) : ∃ r w', a.run w = (r, w') ∧ Q r w' :=
  ⟨_, _, rfl, h⟩

/-- What holds of an ending may be weakened. -/
theorem Yields.mono (h : a.Yields w Q) (himp : ∀ r w', Q r w' → Q' r w') : a.Yields w Q' :=
  himp _ _ h

/-- What follows a step that may fail: the rest after a success, nothing after a
failure. -/
def Goes (f : α → Action β) (Q : Except Error β → World σ → Prop) :
    Except Error α → World σ → Prop
  | .ok x, w => (f x).Yields w Q
  | .error e, w => Q (.error e) w

/-- After a success the rest goes on. -/
@[simp]
theorem goes_ok {f : α → Action β} {Q : Except Error β → World σ → Prop} {x : α} :
    Goes f Q (.ok x) w ↔ (f x).Yields w Q := Iff.rfl

/-- After a failure there is no rest. -/
@[simp]
theorem goes_error {f : α → Action β} {Q : Except Error β → World σ → Prop} {e : Error} :
    Goes f Q (.error e) w ↔ Q (.error e) w := Iff.rfl

/-- An action that only answers ends at once. -/
@[simp]
theorem yields_pure {x : α} : (pure x : Action α).Yields w Q ↔ Q (.ok x) w := Iff.rfl

/-- So does one that fails. -/
@[simp]
theorem yields_throw {e : Error} : (throw e : Action α).Yields w Q ↔ Q (.error e) w := Iff.rfl

/-- An action that goes on ends as its second part does, or as the first one
failed. -/
@[simp]
theorem yields_bind {f : α → Action β} {Q : Except Error β → World σ → Prop} :
    (a >>= f).Yields w Q ↔ a.Yields w (Goes f Q) := by
  show Q ((ExceptT.run (a >>= f)).run w).1 ((ExceptT.run (a >>= f)).run w).2 ↔ _
  rw [show ExceptT.run (a >>= f) = Program.bind (ExceptT.run a) (ExceptT.bindCont f) from rfl,
    Program.run_bind]
  unfold Yields Action.run
  cases (Program.run (ExceptT.run a) w).1 <;> rfl

/-- What is made of an answer changes the answer alone. -/
@[simp]
theorem yields_map {f : α → β} {Q : Except Error β → World σ → Prop} :
    (f <$> a).Yields w Q ↔ a.Yields w fun r w' => Q (r.map f) w' := by
  show Q ((ExceptT.run (f <$> a)).run w).1 ((ExceptT.run (f <$> a)).run w).2 ↔ _
  rw [show ExceptT.run (f <$> a) = Program.bind (ExceptT.run a) _ from rfl, Program.run_bind]
  unfold Yields Action.run
  cases (Program.run (ExceptT.run a) w).1 <;> rfl

/-- After a success the rest runs in the world that the first part left. -/
theorem run_bind_ok {w' : World σ} {x : α} (h : a.run w = (.ok x, w')) (f : α → Action β) :
    (a >>= f).run w = (f x).run w' := by
  show Program.run (Program.bind (ExceptT.run a) (ExceptT.bindCont f)) w = _
  rw [Program.run_bind, show Program.run (ExceptT.run a) w = _ from h]
  rfl

/-- After a failure nothing more is run. -/
theorem run_bind_error {w' : World σ} {e : Error} (h : a.run w = (.error e, w'))
    (f : α → Action β) : (a >>= f).run w = (.error e, w') := by
  show Program.run (Program.bind (ExceptT.run a) (ExceptT.bindCont f)) w = _
  rw [Program.run_bind, show Program.run (ExceptT.run a) w = _ from h]
  rfl

/-- What succeeds has two parts that succeed. -/
theorem exists_of_run_bind {f : α → Action β} {w' : World σ} {y : β}
    (h : (a >>= f).run w = (.ok y, w')) :
    ∃ x w₁, a.run w = (.ok x, w₁) ∧ (f x).run w₁ = (.ok y, w') := by
  cases hrun : a.run w with
  | mk result w₁ =>
    cases result with
    | ok x => exact ⟨x, w₁, rfl, (run_bind_ok hrun f).symm.trans h⟩
    | error e =>
      rw [run_bind_error hrun] at h
      cases h

/-- Running an action whose answer is changed is running the action and changing
its answer. -/
theorem run_map (f : α → β) (a : Action α) (w : World σ) :
    (f <$> a).run w = ((a.run w).1.map f, (a.run w).2) :=
  (yields_map (Q := fun r w' => (r, w') = ((a.run w).1.map f, (a.run w).2))).2 rfl

/-- What is made of a result does not change the world. -/
theorem run_map_snd (f : α → β) (a : Action α) (w : World σ) :
    ((f <$> a).run w).2 = (a.run w).2 := by rw [run_map]

/-- What does not succeed fails with an error. -/
theorem exists_error (h : (a.run w).1.isOk = false) : ∃ e, a.run w = (.error e, (a.run w).2) := by
  generalize a.run w = p at h ⊢
  obtain ⟨r, w'⟩ := p
  cases r with
  | ok x => exact absurd h Bool.noConfusion
  | error e => exact ⟨e, rfl⟩

/-! ### Single requests -/

/-- A look at the clock answers the next reading, and uses it up. -/
@[simp]
theorem yields_now {Q : Except Error Instant → World σ → Prop} :
    now.Yields w Q ↔ Q (.ok w.supply.tick.1) { w with supply := w.supply.tick.2 } := Iff.rfl

/-- A fresh identifier is the next one of the supply, and is used up. -/
@[simp]
theorem yields_freshId {Q : Except Error Id → World σ → Prop} :
    freshId.Yields w Q ↔ Q (.ok w.supply.draw.1) { w with supply := w.supply.draw.2 } := Iff.rfl

/-- An event that is put on record answers nothing. -/
@[simp]
theorem yields_record {event : Event} {Q : Except Error Unit → World σ → Prop} :
    (record event).Yields w Q ↔ Q (.ok ()) (w.record event) := Iff.rfl

/-- A notice is put behind the others. -/
@[simp]
theorem yields_notice {error : Error} {Q : Except Error Unit → World σ → Prop} :
    (notice error).Yields w Q ↔ Q (.ok ()) { w with notices := w.notices ++ [error] } := Iff.rfl

/-- A complaint fails the action; without one it goes on. -/
theorem yields_refuse {complaint : Option Complaint} {Q : Except Error Unit → World σ → Prop} :
    (refuse complaint).Yields w Q ↔
      match complaint with
      | some c => Q (.error (.invalid c)) w
      | none => Q (.ok ()) w := by
  cases complaint <;> rfl

end Action
end LedgerRules
