/-
# An action carried out with two stores

An action is carried out in two worlds that differ in their stores only: one
keeps records, the other a database that mirrors them (`World.Mirrors`).  What
was read from the two differs in how numbers are written, so the second world
may go on with another action; `Action.Together` says that both succeed, with
results that belong together, or fail with the same error.  Two actions are
taken apart along their steps at the same time (`Together.step`,
`Together.bind`).

What the clock gives has to fit the cells of a database, and no reading and no
identifier may come twice.  That is asked only of what is used until the end of
the run, so a `Span` has a supply at either end.  What records were created at
are readings that have been made, so the next reading is new to the store
(`together_stamp`), just as the next identifier is (`together_freshId`).
-/

import LedgerRules.Proofs.Program.Isolation
import LedgerRules.Proofs.Store.Identifiers
import LedgerRules.Proofs.Store.Mirror

namespace LedgerRules

/-! ### Supplies in the course of a run -/

/-- A supply later on: what was read and drawn stays so.  Worlds of one run are
compared by how far they have come. -/
structure Supply.Before (s t : Supply) : Prop extends Supply.LeadsTo s t where
  read : s.read ≤ t.read

/-- A supply is before itself. -/
theorem Supply.Before.refl (s : Supply) : s.Before s := ⟨.refl s, Nat.le_refl _⟩

/-- A supply that is before an earlier one is before a later one. -/
theorem Supply.Before.trans {s t u : Supply} (h : s.Before t) (h' : t.Before u) : s.Before u :=
  ⟨h.toLeadsTo.trans h'.toLeadsTo, Nat.le_trans h.read h'.read⟩

section Running

variable {σ α : Type} [Store σ]

/-- Answering a request leads to a later supply. -/
theorem World.before_answer (r : Request) (w : World σ) :
    w.supply.Before (w.answer r).2.supply := by
  refine ⟨w.leadsTo_answer r, ?_⟩
  cases r with
  | now => exact Nat.le_succ _
  | record event =>
    show w.supply.read ≤ (w.record event).supply.read
    unfold World.record
    split
    · exact Nat.le_refl _
    · exact Nat.le_succ _
  | _ => exact Nat.le_refl _

/-- Running a program leads to a later supply. -/
theorem Program.before_run (p : Program α) (w : World σ) : w.supply.Before (p.run w).2.supply := by
  induction p generalizing w with
  | done result => exact .refl _
  | ask r next ih => exact (w.before_answer r).trans (ih _ _)

/-- And so does running an action. -/
theorem Action.before_run (a : Action α) (w : World σ) : w.supply.Before (a.run w).2.supply :=
  Program.before_run _ w

end Running

/-! ### Two worlds -/

/-- What two runs are compared over: from which supply to which they go, and
which times may stand for each other as those of last changes. -/
structure Span where
  close : Instant → Instant → Prop
  first : Supply
  last : Supply

/-- What is used until the end of the span fits cells, and no reading of the
clock and no identifier comes twice.  Past the end nothing is asked. -/
structure Span.Fits (s : Span) : Prop where
  refl : ∀ t, s.close t t
  clock : ∀ n < s.last.read, (s.last.clock n).FitsCell
  times : ∀ i j, i < j → j < s.last.read → s.last.clock i ≠ s.last.clock j
  ids : ∀ i j, i < j → j < s.last.drawn → s.last.ids i ≠ s.last.ids j

namespace World

/-- The identifier has been drawn.  All records of a run have such identifiers,
so one that is drawn next is new. -/
def Drawn {σ : Type} (w : World σ) (id : Id) : Prop := ∃ n < w.supply.drawn, w.supply.ids n = id

/-- The time has been read off the clock.  All times in the records of a run are
such times, so one that is read next is new. -/
def Noted {σ : Type} (w : World σ) (t : Instant) : Prop := ∃ n < w.supply.read, w.supply.clock n = t

/-- What a call brings into the store has been drawn and read: the identifier of
a record that it inserts, and the time of its creation, which no record in the
store has.  What it puts back was created when the record in its place was. -/
structure Admits (w : World Memory) (c : Call) : Prop where
  drawn : ∀ id, c.newId? = some id → w.Drawn id
  noted : ∀ t, c.createdAt? = some t → w.Noted t ∧ t ∉ w.store.creations
  keeps : c.KeepsCreation w.store

/-- A call that inserts nothing brings nothing in. -/
theorem Admits.of_no_insertion {w : World Memory} {c : Call} (hid : c.newId? = none)
    (ht : c.createdAt? = none) (hkeeps : c.KeepsCreation w.store) : w.Admits c where
  drawn id h := by
    rw [hid] at h
    cases h
  noted t h := by
    rw [ht] at h
    cases h
  keeps := hkeeps

/-- The second world is the first one with a database that mirrors its store.
Besides the rows it keeps what insertions rest on: identifiers that are distinct
and drawn, and times of creation that are distinct and read. -/
structure Mirrors (s : Span) (w : World Memory) (v : World Database) : Prop where
  store : w.store.Mirrors s.close v.store
  distinct : w.store.Distinct
  distinctRules : w.store.DistinctRules
  staggered : w.store.Staggered
  drawn : ∀ id ∈ w.store.ids, w.Drawn id
  noted : ∀ t ∈ w.store.creations, w.Noted t
  supply : v.supply = w.supply
  journal : v.journal = w.journal
  notices : v.notices = w.notices
  since : s.first.Before w.supply

namespace Mirrors

variable {s : Span} {w : World Memory} {v : World Database}

/-- A call that brings in nothing but what was drawn and read leaves mirrors if
its stores are. -/
theorem withStore (h : w.Mirrors s v) {c : Call} (hc : w.Admits c) {d : Database}
    (hd : (w.store.answer c).2.Mirrors s.close d) :
    (w.withStore (w.store.answer c).2).Mirrors s (v.withStore d) where
  store := hd
  distinct := (w.store.wrote_answer c).distinct h.distinct
  distinctRules := (w.store.wrote_answer c).distinctRules h.distinctRules
  staggered := (w.store.wrote_answer c).staggered hc.keeps h.staggered fun t ht => (hc.noted t ht).2
  drawn id hm := ((w.store.wrote_answer c).mem_ids hm).elim (h.drawn id) (hc.drawn id)
  noted t hm := ((w.store.wrote_answer c).mem_creations hc.keeps hm).elim (h.noted t) fun ht =>
    (hc.noted t ht).1
  supply := h.supply
  journal := h.journal
  notices := h.notices
  since := h.since

/-- Using the supply leaves mirrors. -/
theorem withSupply (h : w.Mirrors s v) {t : Supply} (ht : w.supply.Before t) :
    Mirrors s { w with supply := t } { v with supply := t } where
  store := h.store
  distinct := h.distinct
  distinctRules := h.distinctRules
  staggered := h.staggered
  drawn id hid := by
    obtain ⟨n, hn, rfl⟩ := h.drawn id hid
    exact ⟨n, Nat.lt_of_lt_of_le hn ht.drawn, congrFun ht.ids n⟩
  noted t hm := by
    obtain ⟨n, hn, rfl⟩ := h.noted t hm
    exact ⟨n, Nat.lt_of_lt_of_le hn ht.read, congrFun ht.clock n⟩
  supply := rfl
  journal := h.journal
  notices := h.notices
  since := h.since.trans ht

/-- An event is put on record in both worlds at the same time. -/
theorem record (h : w.Mirrors s v) (event : Event) :
    (w.record event).Mirrors s (v.record event) := by
  have hbefore : w.supply.Before w.supply.tick.2 := ⟨⟨rfl, rfl, Nat.le_refl _⟩, Nat.le_succ _⟩
  have hticked := h.withSupply hbefore
  have hjournal := h.journal
  have hsupply := h.supply
  obtain ⟨store, journal, notices, supply⟩ := w
  obtain ⟨store', journal', notices', supply'⟩ := v
  obtain rfl : journal' = journal := hjournal
  obtain rfl : supply' = supply := hsupply
  cases journal' with
  | none => exact h
  | some j =>
    exact { hticked with journal := rfl, drawn := hticked.drawn, noted := hticked.noted
                         since := hticked.since }

end Mirrors
end World

/-! ### Actions in two worlds -/

section Together

variable {α β γ δ : Type}

/-- Two actions end together: both succeed and `Q` holds of what they leave, or
both fail with the same error and leave mirrors. -/
def Action.Ends (s : Span) (Q : α → β → World Memory → World Database → Prop) :
    Except Error α → Except Error β → World Memory → World Database → Prop
  | .ok x, .ok y, w, v => Q x y w v
  | .error e, .error e', w, v => e' = e ∧ w.Mirrors s v
  | _, _, _, _ => False

/-- Carried out in two worlds, two actions end together, if what they use is
within the span.  If they use more, nothing is said. -/
structure Action.Together (s : Span) (a : Action α) (b : Action β) (w : World Memory)
    (v : World Database) (Q : α → β → World Memory → World Database → Prop) : Prop where
  ends : (a.run w).2.supply.Before s.last →
    Ends s Q (a.run w).1 (b.run v).1 (a.run w).2 (b.run v).2

namespace Action

variable {s : Span} {a : Action α} {b : Action β} {f : α → Action γ} {g : β → Action δ}
variable {w w' : World Memory} {v v' : World Database}
variable {P : α → β → World Memory → World Database → Prop}
variable {Q : γ → δ → World Memory → World Database → Prop}

/-- Actions that only answer end together if their answers go together. -/
theorem together_pure {x : α} {y : β} (h : P x y w v) :
    Together s (pure x : Action α) (pure y : Action β) w v P := ⟨fun _ => h⟩

/-- Actions that fail with the same error end together. -/
theorem together_throw (h : w.Mirrors s v) (e : Error) :
    Together s (throw e : Action α) (throw e : Action β) w v P := ⟨fun _ => ⟨rfl, h⟩⟩

/-- Two steps that succeed, and what follows. -/
theorem Together.step {x : α} {y : β} (ha : a.run w = (.ok x, w')) (hb : b.run v = (.ok y, v'))
    (hk : w'.supply.Before s.last → Together s (f x) (g y) w' v' Q) :
    Together s (a >>= f) (b >>= g) w v Q := by
  refine ⟨fun hlast => ?_⟩
  rw [run_bind_ok ha] at hlast ⊢
  rw [run_bind_ok hb]
  exact (hk (((f x).before_run w').trans hlast)).ends hlast

/-- Actions that go on end together if their parts do. -/
theorem Together.bind (h : Together s a b w v P)
    (hk : ∀ x y w' v', P x y w' v' → Together s (f x) (g y) w' v' Q) :
    Together s (a >>= f) (b >>= g) w v Q := by
  refine ⟨fun hlast => ?_⟩
  obtain ⟨r, w', ha⟩ : ∃ r w', a.run w = (r, w') := ⟨_, _, rfl⟩
  obtain ⟨r', v', hb⟩ : ∃ r v', b.run v = (r, v') := ⟨_, _, rfl⟩
  have h := h.ends
  rw [ha, hb] at h
  cases r with
  | error e =>
    rw [run_bind_error ha] at hlast ⊢
    cases r' with
    | error e' =>
      rw [run_bind_error hb]
      exact h hlast
    | ok y => exact (h hlast).elim
  | ok x =>
    rw [run_bind_ok ha] at hlast ⊢
    have hP := h (((f x).before_run w').trans hlast)
    cases r' with
    | error e' => exact hP.elim
    | ok y =>
      rw [run_bind_ok hb]
      exact (hk x y w' v' hP).ends hlast

/-- What is known of answers and worlds may be weakened. -/
theorem Together.mono {R : α → β → World Memory → World Database → Prop}
    (h : Together s a b w v P) (himp : ∀ x y w' v', P x y w' v' → R x y w' v') :
    Together s a b w v R := by
  refine ⟨fun hlast => ?_⟩
  have hends := h.ends hlast
  generalize (a.run w).1 = r at hends ⊢
  generalize (b.run v).1 = r' at hends ⊢
  cases r <;> cases r'
  · exact hends
  · exact hends
  · exact hends
  · exact himp _ _ _ _ hends

/-- Answers may be changed if they still go together. -/
theorem Together.map (h : Together s a b w v P) {h₁ : α → γ} {h₂ : β → δ}
    (hk : ∀ x y w' v', P x y w' v' → Q (h₁ x) (h₂ y) w' v') :
    Together s (h₁ <$> a) (h₂ <$> b) w v Q := by
  refine ⟨fun hlast => ?_⟩
  rw [run_map] at hlast ⊢
  rw [run_map]
  have hends := h.ends hlast
  dsimp only
  generalize (a.run w).1 = r at hends ⊢
  generalize (b.run v).1 = r' at hends ⊢
  cases r <;> cases r'
  · exact hends
  · exact hends
  · exact hends
  · exact hk _ _ _ _ hends

/-! ### Requests -/

/-- The clock gives both the same reading, which fits a cell, and at which no
record was created. -/
theorem together_stamp (hs : s.Fits) (h : w.Mirrors s v) {f : Instant → Action γ}
    {g : Instant → Action δ}
    (hk : w.supply.tick.1.FitsCell →
      World.Noted { w with supply := w.supply.tick.2 } w.supply.tick.1 →
      w.supply.tick.1 ∉ w.store.creations →
      World.Mirrors s { w with supply := w.supply.tick.2 } { v with supply := w.supply.tick.2 } →
      Together s (f w.supply.tick.1) (g w.supply.tick.1) { w with supply := w.supply.tick.2 }
        { v with supply := w.supply.tick.2 } Q) :
    Together s (now >>= f) (now >>= g) w v Q := by
  have hv : now.run v = (.ok w.supply.tick.1, { v with supply := w.supply.tick.2 }) := by
    rw [← h.supply]
    rfl
  refine Together.step (a := now) rfl hv fun hlast => hk ?_ ?_ (fun hmem => ?_) (h.withSupply ?_)
  · have hread : w.supply.read < s.last.read := hlast.read
    have hfits := hs.clock _ hread
    rwa [hlast.clock] at hfits
  · exact ⟨w.supply.read, Nat.lt_succ_self _, rfl⟩
  · obtain ⟨n, hn, he⟩ := h.noted _ hmem
    have hread : w.supply.read < s.last.read := hlast.read
    have hne := hs.times n w.supply.read hn hread
    rw [← hlast.clock] at he
    exact hne (he.trans (congrFun hlast.clock w.supply.read).symm)
  · exact ⟨⟨rfl, rfl, Nat.le_refl _⟩, Nat.le_succ _⟩

/-- The same where nothing is created at the reading. -/
theorem together_now (hs : s.Fits) (h : w.Mirrors s v) {f : Instant → Action γ}
    {g : Instant → Action δ}
    (hk : w.supply.tick.1.FitsCell →
      World.Mirrors s { w with supply := w.supply.tick.2 } { v with supply := w.supply.tick.2 } →
      Together s (f w.supply.tick.1) (g w.supply.tick.1) { w with supply := w.supply.tick.2 }
        { v with supply := w.supply.tick.2 } Q) :
    Together s (now >>= f) (now >>= g) w v Q :=
  together_stamp hs h fun hnow _ _ => hk hnow

/-- Both draw the same identifier, which no record has. -/
theorem together_freshId (hs : s.Fits) (h : w.Mirrors s v) {f : Id → Action γ} {g : Id → Action δ}
    (hk : World.Drawn { w with supply := w.supply.draw.2 } w.supply.draw.1 →
      w.supply.draw.1 ∉ w.store.ids →
      World.Mirrors s { w with supply := w.supply.draw.2 } { v with supply := w.supply.draw.2 } →
      Together s (f w.supply.draw.1) (g w.supply.draw.1) { w with supply := w.supply.draw.2 }
        { v with supply := w.supply.draw.2 } Q) :
    Together s (freshId >>= f) (freshId >>= g) w v Q := by
  have hv : freshId.run v = (.ok w.supply.draw.1, { v with supply := w.supply.draw.2 }) := by
    rw [← h.supply]
    rfl
  refine Together.step (a := freshId) rfl hv fun hlast => hk ?_ (fun hmem => ?_) (h.withSupply ?_)
  · exact ⟨w.supply.drawn, Nat.lt_succ_self _, rfl⟩
  · obtain ⟨n, hn, he⟩ := h.drawn _ hmem
    have hdrawn : w.supply.drawn < s.last.drawn := hlast.drawn
    have hne := hs.ids n w.supply.drawn hn hdrawn
    rw [← hlast.ids] at he
    exact hne (he.trans (congrFun hlast.ids w.supply.drawn).symm)
  · exact ⟨⟨rfl, rfl, Nat.le_succ _⟩, Nat.le_refl _⟩

/-- An event is put on record in both worlds, and what follows ends together. -/
theorem together_record (h : w.Mirrors s v) (event : Event) {f : Unit → Action γ}
    {g : Unit → Action δ}
    (hk : (w.record event).Mirrors s (v.record event) →
      Together s (f ()) (g ()) (w.record event) (v.record event) Q) :
    Together s (record event >>= f) (record event >>= g) w v Q :=
  Together.step (a := record event) (b := record event) rfl rfl fun _ => hk (h.record event)

/-- A complaint refuses both actions, or neither. -/
theorem together_refuse (h : w.Mirrors s v) {complaint : Option Complaint} {f : Unit → Action γ}
    {g : Unit → Action δ} (hk : complaint = none → Together s (f ()) (g ()) w v Q) :
    Together s (refuse complaint >>= f) (refuse complaint >>= g) w v Q := by
  cases complaint with
  | none => exact hk rfl
  | some c => exact together_throw h _

/-! ### Calls -/

/-- A call that reads is answered by both stores without a change. -/
theorem together_call {c : Call} {P : c.Answer → c.Answer → World Memory → World Database → Prop}
    {x y : c.Answer} (hreads : c.table? = none) (hm : (w.store.answer c).1 = .ok x)
    (hd : (v.store.answer c).1 = .ok y) (hP : P x y w v) : Together s (call c) (call c) w v P := by
  have hw : (call c).run w = ((w.store.answer c).1, w.withStore (w.store.answer c).2) := rfl
  have hv : (call c).run v = ((v.store.answer c).1, v.withStore (v.store.answer c).2) := rfl
  rw [hm, (w.store.wrote_answer c).eq_of_reads hreads] at hw
  rw [hd, (v.store.wrote_answer c).eq_of_reads hreads] at hv
  refine ⟨fun _ => ?_⟩
  rw [hw, hv]
  exact hP

/-- A call that reads is answered by both stores, and what follows ends
together. -/
theorem together_read {c : Call} {f : c.Answer → Action γ} {g : c.Answer → Action δ}
    {x y : c.Answer} (hreads : c.table? = none) (hm : (w.store.answer c).1 = .ok x)
    (hd : (v.store.answer c).1 = .ok y) (hk : Together s (f x) (g y) w v Q) :
    Together s (call c >>= f) (call c >>= g) w v Q := by
  have hcall := together_call (P := fun x' y' w' v' => x' = x ∧ y' = y ∧ w' = w ∧ v' = v) (s := s)
    hreads hm hd ⟨rfl, rfl, rfl, rfl⟩
  refine hcall.bind fun x' y' w' v' hread => ?_
  obtain ⟨rfl, rfl, rfl, rfl⟩ := hread
  exact hk

/-- A call that both stores answer and that leaves them mirrors. -/
theorem together_write (h : w.Mirrors s v) {c c' : Call} {f : c.Answer → Action γ}
    {g : c'.Answer → Action δ} (hc : w.Admits c) {x : c.Answer}
    {y : c'.Answer} {m : Memory} {d : Database} (hm : w.store.answer c = (.ok x, m))
    (hd : v.store.answer c' = (.ok y, d)) (hstore : m.Mirrors s.close d)
    (hk : (w.withStore m).Mirrors s (v.withStore d) →
      Together s (f x) (g y) (w.withStore m) (v.withStore d) Q) :
    Together s (call c >>= f) (call c' >>= g) w v Q := by
  have hw : (call c).run w = ((w.store.answer c).1, w.withStore (w.store.answer c).2) := rfl
  have hv : (call c').run v = ((v.store.answer c').1, v.withStore (v.store.answer c').2) := rfl
  have hmirrors := h.withStore hc (d := d)
  rw [hm] at hw hmirrors
  rw [hd] at hv
  exact Together.step hw hv fun _ => hk (hmirrors hstore)

/-- The same for a call whose failure would be a result. -/
theorem together_try (h : w.Mirrors s v) {c : Call} {f g : Except Error c.Answer → Action γ}
    {Q : γ → γ → World Memory → World Database → Prop} (hc : w.Admits c) {x : c.Answer}
    {m : Memory} {d : Database} (hm : w.store.answer c = (.ok x, m))
    (hd : v.store.answer c = (.ok x, d)) (hstore : m.Mirrors s.close d)
    (hk : (w.withStore m).Mirrors s (v.withStore d) →
      Together s (f (.ok x)) (g (.ok x)) (w.withStore m) (v.withStore d) Q) :
    Together s (tryCall c >>= f) (tryCall c >>= g) w v Q := by
  have hw : (tryCall c).run w = (.ok (w.store.answer c).1, w.withStore (w.store.answer c).2) := rfl
  have hv : (tryCall c).run v = (.ok (v.store.answer c).1, v.withStore (v.store.answer c).2) := rfl
  have hmirrors := h.withStore hc (d := d)
  rw [hm] at hw hmirrors
  rw [hd] at hv
  exact Together.step hw hv fun _ => hk (hmirrors hstore)

end Action
end Together
end LedgerRules
