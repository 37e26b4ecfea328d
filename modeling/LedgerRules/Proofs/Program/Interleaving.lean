/-
# Two programs side by side

Two programs over one world take turns.  A request is carried out as a whole,
and between two requests of one program the other may make any number of its
own.  `Program.Interleaved` is the relation of two programs to the results and
the world that this leads to.  Its trace lists the requests in the order they
were made, those of the first program on the left.  Every interleaving is that
of a schedule (`Program.interleaved_iff_weave`).

What a program does is told by a contract: it makes only requests that are
allowed, as long as the answers are what was promised.  Promises that a state of
the world makes true, and that all allowed requests keep true, hold at every
moment of an interleaving (`Program.Interleaved.invariant`).
-/

import LedgerRules.Proofs.Program.Running

namespace LedgerRules
namespace Program

variable {σ α β : Type} [Store σ]

/-! ### Interleavings -/

/-- A program makes some requests and is not interrupted.  Each is answered by
the world as the one before it left it. -/
inductive Advances : Program α → World σ → List Request → Program α → World σ → Prop
  | here (p : Program α) (w : World σ) : Advances p w [] p w
  | ask {r : Request} {next : r.Answer → Program α} {w : World σ} {requests : List Request}
      {p' : Program α} {w' : World σ}
      (h : Advances (next (w.answer r).1) (w.answer r).2 requests p' w') :
    Advances (.ask r next) w (r :: requests) p' w'

/-- Two programs are carried out to their ends, request by request in some
order.  A request is never split, so one call of a store sees it whole. -/
inductive Interleaved :
    Program α → Program β → World σ → List (Request ⊕ Request) → α → β → World σ → Prop
  | done (a : α) (b : β) (w : World σ) : Interleaved (.done a) (.done b) w [] a b w
  | first {r : Request} {next : r.Answer → Program α} {q : Program β} {w : World σ}
      {trace : List (Request ⊕ Request)} {a : α} {b : β} {w' : World σ}
      (h : Interleaved (next (w.answer r).1) q (w.answer r).2 trace a b w') :
    Interleaved (.ask r next) q w (.inl r :: trace) a b w'
  | second {p : Program α} {r : Request} {next : r.Answer → Program β} {w : World σ}
      {trace : List (Request ⊕ Request)} {a : α} {b : β} {w' : World σ}
      (h : Interleaved p (next (w.answer r).1) (w.answer r).2 trace a b w') :
    Interleaved p (.ask r next) w (.inr r :: trace) a b w'

variable {p : Program α} {q : Program β} {w w' : World σ} {trace : List (Request ⊕ Request)}
  {a : α} {b : β}

/-- Carries out two programs by a schedule, which says of each request whether
it is the second program's turn; there is no result if the schedule does not
fit. -/
def weave : List Bool → Program α → Program β → World σ →
    Option (List (Request ⊕ Request) × (α × β) × World σ)
  | [], .done a, .done b, w => some ([], (a, b), w)
  | false :: schedule, .ask r next, q, w =>
    (weave schedule (next (w.answer r).1) q (w.answer r).2).map fun x => (.inl r :: x.1, x.2)
  | true :: schedule, p, .ask r next, w =>
    (weave schedule p (next (w.answer r).1) (w.answer r).2).map fun x => (.inr r :: x.1, x.2)
  | _, _, _, _ => none

/-- A schedule that fits is an interleaving. -/
theorem interleaved_of_weave {schedule : List Bool}
    (h : weave schedule p q w = some (trace, (a, b), w')) : Interleaved p q w trace a b w' := by
  induction schedule, p, q, w using weave.induct generalizing trace with
  | case1 a b w =>
    cases h
    exact .done _ _ _
  | case2 w q schedule r next ih =>
    obtain ⟨⟨trace', x⟩, hx, he⟩ := Option.map_eq_some_iff.1 h
    cases he
    exact .first (ih hx)
  | case3 w p schedule r next ih =>
    obtain ⟨⟨trace', x⟩, hx, he⟩ := Option.map_eq_some_iff.1 h
    cases he
    exact .second (ih hx)
  | case4 schedule p q w _ _ _ =>
    rw [weave] at h
    · cases h
    all_goals assumption

/-- **Interleavings are the schedules that fit.** So whether two programs have a
certain interleaving can be found out by carrying it out. -/
theorem interleaved_iff_weave : Interleaved p q w trace a b w' ↔
    ∃ schedule, weave schedule p q w = some (trace, (a, b), w') := by
  refine ⟨fun h => ?_, fun ⟨_, h⟩ => interleaved_of_weave h⟩
  induction h with
  | done a b w => exact ⟨[], rfl⟩
  | first _ ih =>
    obtain ⟨schedule, h⟩ := ih
    refine ⟨false :: schedule, ?_⟩
    rw [weave, h]
    rfl
  | @second p r next w _ _ _ _ _ ih =>
    obtain ⟨schedule, h⟩ := ih
    refine ⟨true :: schedule, ?_⟩
    rw [weave, h]
    rfl

/-- Until the next request of the second program, the first one goes on alone. -/
theorem Interleaved.second_next {r : Request} {next : r.Answer → Program β}
    (h : Interleaved p (.ask r next) w trace a b w') :
    ∃ requests p₁ w₁ rest, trace = requests.map .inl ++ .inr r :: rest ∧
      p.Advances w requests p₁ w₁ ∧
      Interleaved p₁ (next (w₁.answer r).1) (w₁.answer r).2 rest a b w' := by
  generalize hq : Program.ask r next = q at h
  induction h with
  | done _ _ _ => cases hq
  | @first r' _ _ _ _ _ _ _ _ ih =>
    obtain ⟨requests, p₁, w₁, rest, rfl, hp, hrest⟩ := ih hq
    exact ⟨r' :: requests, p₁, w₁, rest, rfl, .ask hp, hrest⟩
  | @second p _ _ w trace _ _ _ h _ =>
    cases hq
    exact ⟨[], p, w, trace, rfl, .here p w, h⟩

end Program

/-! ### Contracts -/

/-- What a program may ask for, and what it may take the answers to be.  The
first is what it guarantees to a program that runs beside it, the second what it
relies on. -/
structure Contract where
  allows : Request → Prop
  promises : (r : Request) → r.Answer → Prop

/-- A request that the contract allows keeps a condition on the world, and where
the condition holds, the answer is as promised. -/
def Contract.Upholds {σ : Type} [Store σ] (c : Contract) (I : World σ → Prop) (r : Request) :
    Prop :=
  ∀ w, I w → c.allows r → c.promises r (w.answer r).1 ∧ I (w.answer r).2

namespace Program

variable {σ α β : Type} [Store σ] {c c₁ c₂ : Contract}

/-- The program makes only requests that the contract allows and has a result of
which `Q` holds, as long as all answers are as promised. -/
def Meets (c : Contract) (Q : α → Prop) : Program α → Prop
  | done result => Q result
  | ask r next => c.allows r ∧ ∀ answer, c.promises r answer → (next answer).Meets c Q

/-- A program that meets a contract meets it with less asked of its result. -/
theorem Meets.mono {Q Q' : α → Prop} {p : Program α} (h : p.Meets c Q) (himp : ∀ x, Q x → Q' x) :
    p.Meets c Q' := by
  induction p with
  | done result => exact himp result h
  | ask r next ih => exact ⟨h.1, fun answer ha => ih answer (h.2 answer ha)⟩

/-- A program that goes on meets a contract if both of its parts do. -/
theorem Meets.bind {Q : α → Prop} {Q' : β → Prop} {p : Program α} {f : α → Program β}
    (h : p.Meets c Q) (hf : ∀ x, Q x → (f x).Meets c Q') : (p.bind f).Meets c Q' := by
  induction p with
  | done result => exact hf result h
  | ask r next ih => exact ⟨h.1, fun answer ha => ih answer (h.2 answer ha)⟩

variable {I : World σ → Prop} {Q : α → Prop} {Q' : β → Prop} {p p' : Program α} {q : Program β}
  {w w' : World σ}

/-- A program that goes on alone keeps what its requests uphold, and still meets
its contract. -/
theorem Advances.invariant {requests : List Request} (h : p.Advances w requests p' w')
    (hp : p.Meets c Q) (hI : ∀ r ∈ requests, c.Upholds I r) (hw : I w) :
    I w' ∧ p'.Meets c Q := by
  induction h with
  | here _ _ => exact ⟨hw, hp⟩
  | @ask r _ w _ _ _ _ ih =>
    obtain ⟨ha, hw'⟩ := hI r (List.mem_cons_self ..) w hw hp.1
    exact ih (hp.2 _ ha) (fun r hr => hI r (List.mem_cons_of_mem _ hr)) hw'

/-- **Two programs keep what the requests of both uphold**, however they are
interleaved: each may rely on the condition because the other guarantees it. -/
theorem Interleaved.invariant {trace : List (Request ⊕ Request)} {a : α} {b : β}
    (h : Interleaved p q w trace a b w') (hp : p.Meets c₁ Q) (hq : q.Meets c₂ Q')
    (h₁ : ∀ r, .inl r ∈ trace → c₁.Upholds I r) (h₂ : ∀ r, .inr r ∈ trace → c₂.Upholds I r)
    (hw : I w) : I w' ∧ Q a ∧ Q' b := by
  induction h with
  | done a b w => exact ⟨hw, hp, hq⟩
  | @first r _ _ w _ _ _ _ _ ih =>
    obtain ⟨ha, hw'⟩ := h₁ r (List.mem_cons_self ..) w hw hp.1
    exact ih (hp.2 _ ha) hq (fun r hr => h₁ r (List.mem_cons_of_mem _ hr))
      (fun r hr => h₂ r (List.mem_cons_of_mem _ hr)) hw'
  | @second _ r _ w _ _ _ _ _ ih =>
    obtain ⟨ha, hw'⟩ := h₂ r (List.mem_cons_self ..) w hw hq.1
    exact ih hp (hq.2 _ ha) (fun r hr => h₁ r (List.mem_cons_of_mem _ hr))
      (fun r hr => h₂ r (List.mem_cons_of_mem _ hr)) hw'

end Program

namespace Action

variable {α β : Type} {c : Contract} {a : Action α} {f : α → Action β} {Q : α → Prop}
  {Q' : β → Prop}

/-- The action meets a contract, and `Q` holds of its result if it does not
fail.  The contract is kept by every request, whatever is answered, as long as
the answers keep its promise. -/
def Meets (c : Contract) (a : Action α) (Q : α → Prop) : Prop :=
  Program.Meets c (fun r => ∀ x, r = .ok x → Q x) (ExceptT.run a)

/-- An action that meets a contract meets it with less asked of its result. -/
theorem Meets.mono {Q Q' : α → Prop} (h : a.Meets c Q) (himp : ∀ x, Q x → Q' x) : a.Meets c Q' :=
  Program.Meets.mono h fun _ hr x hx => himp x (hr x hx)

/-- An action that only answers meets every contract. -/
theorem meets_pure {x : α} (h : Q x) : (pure x : Action α).Meets c Q := by
  rintro y ⟨⟩
  exact h

/-- So does one that fails. -/
theorem meets_throw {e : Error} : (throw e : Action α).Meets c Q := nofun

/-- An action that goes on meets a contract if both of its parts do; where the
first one fails there is no second. -/
theorem Meets.bind (h : a.Meets c Q) (hf : ∀ x, Q x → (f x).Meets c Q') : (a >>= f).Meets c Q' := by
  refine Program.Meets.bind h fun r hr => ?_
  cases r with
  | ok x => exact hf x (hr x rfl)
  | error e => exact nofun

/-! ### Single requests -/

/-- A call meets a contract that allows it, with what its answer is promised to
be. -/
theorem meets_call {call' : Call} {Q : call'.Answer → Prop} (h : c.allows (.call call'))
    (hQ : ∀ x, c.promises (.call call') (.ok x) → Q x) : (call call').Meets c Q := by
  refine ⟨h, fun answer ha x hx => hQ x ?_⟩
  rwa [← hx]

/-- A call meets a contract that allows it, whatever it answers. -/
theorem meets_call_any {call' : Call} (h : c.allows (.call call')) :
    (call call').Meets c fun _ => True :=
  meets_call h fun _ _ => trivial

/-- So does a call whose failure is taken as an answer, -/
theorem meets_tryCall {call' : Call} (h : c.allows (.call call')) :
    (tryCall call').Meets c fun _ => True :=
  ⟨h, fun _ _ _ _ => trivial⟩

/-- a look at the clock, -/
theorem meets_now (h : c.allows .now) : now.Meets c fun _ => True :=
  ⟨h, fun _ _ _ _ => trivial⟩

/-- an event for the journal, -/
theorem meets_record {event : Event} (h : c.allows (.record event)) :
    (record event).Meets c fun _ => True :=
  ⟨h, fun _ _ _ _ => trivial⟩

/-- and a notice about a record that was skipped. -/
theorem meets_notice {error : Error} (h : c.allows (.notice error)) :
    (notice error).Meets c fun _ => True :=
  ⟨h, fun _ _ _ _ => trivial⟩

/-- A loop meets a contract if every round does. -/
theorem meets_forM {f : α → Action PUnit} {l : List α}
    (h : ∀ x ∈ l, (f x).Meets c fun _ => True) : (l.forM f).Meets c fun _ => True := by
  induction l with
  | nil => exact meets_pure trivial
  | cons x l ih =>
    exact (h x (List.mem_cons_self ..)).bind fun _ _ =>
      ih fun y hy => h y (List.mem_cons_of_mem _ hy)

end Action
end LedgerRules
