/-
# Users do not see each other

An operation of a user makes calls for that user only, so the rest of the store
has no part in it.  Two stores that hold the same records of the user, and let
the same grouped writes fail, give every call the same answer and go on holding
the same; and no call touches a record of anybody else (`users_are_isolated`).

Two things in a store are shared by all: identifiers have to be new among
everybody's records, and applications are counted by the identifier of a rule
alone.  What is drawn must therefore be new, and that no rule of another has the
identifier of an active rule follows from all of them being distinct
(`Memory.Since.owns`).
-/

import LedgerRules.Proofs.Program.Ownership
import LedgerRules.Proofs.Program.RuleIds

namespace LedgerRules

/-! ### Two runs at once -/

/-- Two supplies go on with the same readings and the same identifiers, wherever
in their sequences they stand.  This is what it means that two runs have the
same clock and draw the same identifiers. -/
structure Supply.GoesOnAs (s t : Supply) : Prop where
  clock : ∀ n, s.clock (s.read + n) = t.clock (t.read + n)
  ids : ∀ n, s.ids (s.drawn + n) = t.ids (t.drawn + n)

namespace Supply.GoesOnAs

variable {s t : Supply}

/-- Both give the same reading, and go on alike behind it. -/
theorem tick (h : s.GoesOnAs t) : s.tick.1 = t.tick.1 ∧ s.tick.2.GoesOnAs t.tick.2 := by
  refine ⟨h.clock 0, fun n => ?_, h.ids⟩
  have hnext := h.clock (1 + n)
  rwa [← Nat.add_assoc, ← Nat.add_assoc] at hnext

/-- Both give the same identifier, and go on alike behind it. -/
theorem draw (h : s.GoesOnAs t) : s.draw.1 = t.draw.1 ∧ s.draw.2.GoesOnAs t.draw.2 := by
  refine ⟨h.ids 0, h.clock, fun n => ?_⟩
  have hnext := h.ids (1 + n)
  rwa [← Nat.add_assoc, ← Nat.add_assoc] at hnext

/-- A supply that was used as often goes on in the same way. -/
theorem of_counts (hclock : t.clock = s.clock) (hids : t.ids = s.ids) (hread : t.read = s.read)
    (hdrawn : t.drawn = s.drawn) : s.GoesOnAs t := by
  refine ⟨fun n => ?_, fun n => ?_⟩
  · rw [hclock, hread]
  · rw [hids, hdrawn]

end Supply.GoesOnAs

section Running

variable {σ τ α : Type} [Store σ] [Store τ]

/-- A supply later on: what was drawn stays drawn, and the rest is to come.  So
identifiers that are drawn later are none of those drawn before. -/
structure Supply.LeadsTo (s t : Supply) : Prop where
  clock : t.clock = s.clock
  ids : t.ids = s.ids
  drawn : s.drawn ≤ t.drawn

/-- A supply leads to itself. -/
theorem Supply.LeadsTo.refl (s : Supply) : s.LeadsTo s := ⟨rfl, rfl, Nat.le_refl _⟩

/-- What leads on from a later supply leads on from an earlier one. -/
theorem Supply.LeadsTo.trans {s t u : Supply} (h : s.LeadsTo t) (h' : t.LeadsTo u) : s.LeadsTo u :=
  ⟨h'.clock.trans h.clock, h'.ids.trans h.ids, Nat.le_trans h.drawn h'.drawn⟩

/-- Answering a request uses the supply once at most, and never winds it back. -/
theorem World.leadsTo_answer (r : Request) (w : World σ) :
    w.supply.LeadsTo (w.answer r).2.supply := by
  cases r with
  | freshId => exact ⟨rfl, rfl, Nat.le_succ _⟩
  | record event =>
    show w.supply.LeadsTo (w.record event).supply
    unfold World.record
    split
    · exact .refl _
    · exact ⟨rfl, rfl, Nat.le_refl _⟩
  | _ => exact ⟨rfl, rfl, Nat.le_refl _⟩

/-- Running a program is answering its first request and running what it makes
of the answer. -/
theorem Program.run_ask {r : Request} (next : r.Answer → Program α) (w : World σ) :
    (ask r next).run w = (next (w.answer r).1).run (w.answer r).2 := rfl

/-- So a run never winds the supply back. -/
theorem Program.leadsTo_run (p : Program α) (w : World σ) :
    w.supply.LeadsTo (p.run w).2.supply := by
  induction p generalizing w with
  | done result => exact .refl _
  | ask r next ih => exact (w.leadsTo_answer r).trans (ih _ _)

variable {c : Contract} {Q : α → Prop} {p : Program α}

/-- **Two runs of a program answer alike** if every request does that is allowed
and made before more identifiers are drawn than the run draws. -/
theorem Program.Meets.run_alike {R : World σ → World τ → Prop} {bound : Nat}
    (hstep : ∀ r w v, R w v → c.allows r → (w.answer r).2.supply.drawn ≤ bound →
      (v.answer r).1 = (w.answer r).1 ∧ c.promises r (w.answer r).1 ∧
        R (w.answer r).2 (v.answer r).2)
    (hp : p.Meets c Q) {w : World σ} {v : World τ} (h : R w v)
    (hb : (p.run w).2.supply.drawn ≤ bound) :
    (p.run v).1 = (p.run w).1 ∧ R (p.run w).2 (p.run v).2 := by
  induction p generalizing w v with
  | done result => exact ⟨rfl, h⟩
  | ask r next ih =>
    obtain ⟨ha, hpromise, hR⟩ := hstep r w v h hp.1 (Nat.le_trans (leadsTo_run _ _).drawn hb)
    rw [run_ask, run_ask, ha]
    exact ih (w.answer r).1 (hp.2 _ hpromise) hR hb

/-- **A run keeps what its requests uphold.** This is the induction over a
program, made once for all invariants. -/
theorem Program.Meets.run_keeps {I : World σ → Prop} (hp : p.Meets c Q)
    (hI : ∀ r, c.Upholds I r) {w : World σ} (hw : I w) : I (p.run w).2 := by
  induction p generalizing w with
  | done result => exact hw
  | ask r next ih =>
    obtain ⟨ha, hw'⟩ := hI r w hw hp.1
    exact ih _ (hp.2 _ ha) hw'

end Running

namespace Memory

variable {user : String} {own fresh : Id → Prop} {start m : Memory} {c : Call} {id : Id}

/-- No transaction and no rule has the identifier.  Then it is free for a new
one. -/
def Lacks (m : Memory) (id : Id) : Prop :=
  (∀ t ∈ m.transactions, t.id ≠ id) ∧ ∀ r ∈ m.rules, r.id ≠ id

/-- The identifier is not one of another user's rule.  Counting an application
for it does not touch another user. -/
def Owns (user : String) (m : Memory) (id : Id) : Prop := ∀ r ∈ m.rules, r.id = id → r.user = user

/-- Since a moment nobody but one user has done anything to the store.  This is
the invariant of an operation of that user, kept request by request. -/
structure Since (user : String) (start m : Memory) : Prop where
  distinct : m.DistinctRules
  others : ∀ other, other ≠ user → m.SameOf other start

namespace Since

/-- At that moment nobody has done anything. -/
theorem refl (user : String) (h : m.DistinctRules) : Since user m m :=
  ⟨h, fun other _ => .refl other m⟩

/-- The rules of others are those that were there. -/
theorem mem_rules (h : Since user start m) {r : Rule} (hne : r.user ≠ user) :
    r ∈ m.rules ↔ r ∈ start.rules := by
  have hiff : r ∈ m.rules.filter (·.user == r.user) ↔
      r ∈ start.rules.filter (·.user == r.user) := by
    rw [(h.others r.user hne).rules]
  simpa using hiff

/-- And so are their transactions. -/
theorem mem_transactions (h : Since user start m) {t : Transaction} (hne : t.user ≠ user) :
    t ∈ m.transactions ↔ t ∈ start.transactions := by
  have hiff : t ∈ m.transactions.filter (·.user == t.user) ↔
      t ∈ start.transactions.filter (·.user == t.user) := by
    rw [(h.others t.user hne).transactions]
  simpa using hiff

/-- The rules of the user have identifiers that are no others'. -/
theorem owns (h : Since user start m) {r : Rule} (hr : r ∈ m.rules) (hu : r.user = user) :
    Owns user start r.id := by
  intro s hs hid
  by_contra hne
  obtain rfl := List.inj_on_of_nodup_map h.distinct ((h.mem_rules hne).2 hs) hr hid
  exact hne hu

/-- What was the user's, or nobody's, at that moment is still no others'. -/
theorem reserves (h : Since user start m) (hown : ∀ id, own id → Owns user start id)
    (hfresh : ∀ id, fresh id → start.Lacks id) : Reserves user own fresh m where
  rule r hr hid := by
    by_contra hne
    exact hne (hown r.id hid r ((h.mem_rules hne).1 hr) rfl)
  freshRule r hr hid := by
    by_contra hne
    exact (hfresh r.id hid).2 r ((h.mem_rules hne).1 hr) rfl
  freshTransaction t ht hid := by
    by_contra hne
    exact (hfresh t.id hid).1 t ((h.mem_transactions hne).1 ht) rfl

/-- A call for the user is nobody else's doing. -/
theorem answer (h : Since user start m) (hown : ∀ id, own id → Owns user start id)
    (hc : c.IsFor user own fresh) : Since user start (m.answer c).2 where
  distinct := (m.wrote_answer c).distinctRules h.distinct
  others other hne := by
    have hrule : ∀ r ∈ m.rules, own r.id → r.user = user := by
      intro r hr hid
      by_contra hother
      exact hother (hown r.id hid r ((h.mem_rules hother).1 hr) rfl)
    exact ((m.wrote_answer c).sameOf_other hc hne hrule).trans (h.others other hne)

end Since

/-- What a call for a user answers about records is about that user's. -/
theorem promises_answer (hc : c.IsFor user own fresh)
    (hown : ∀ r ∈ m.rules, r.user = user → own r.id) :
    (Contract.affairs user own fresh).promises (.call c) (m.answer c).1 := by
  cases c with
  | activeRules u =>
    obtain rfl : u = user := hc
    rintro _ ⟨⟩ r hr
    obtain ⟨hm, hu, -⟩ := mem_activeRulesOf.1 hr
    exact hown r hm hu
  | getTransaction u id =>
    obtain rfl : u = user := hc
    exact fun t ht => (transaction?_mem (Except.ok.inj ht)).2.2
  | getRule u id =>
    obtain rfl : u = user := hc
    exact fun r hr => (rule?_mem (Except.ok.inj hr)).2.2
  | _ => trivial

end Memory

/-- A request on behalf of the user is nobody else's doing. -/
theorem Memory.Since.request {user : String} {own fresh : Id → Prop} {start : Memory}
    {w : World Memory} (h : Since user start w.store) (hown : ∀ id, own id → Owns user start id)
    {r : Request} (hr : (Contract.affairs user own fresh).allows r) :
    Since user start (w.answer r).2.store := by
  cases r with
  | call c => exact h.answer hown hr
  | record event =>
    show Since user start (w.record event).store
    rwa [World.record_store]
  | _ => exact h

namespace World

variable {user : String} {w v : World Memory}

/-- Two worlds look the same to a user: the records of that user, the writes
that fail, and what the clock and the supply of identifiers will give. -/
structure AlikeFor (user : String) (w v : World Memory) : Prop where
  records : w.store.SameOf user v.store
  failing : w.store.failing = v.store.failing
  supply : w.supply.GoesOnAs v.supply
  journal : w.journal.isSome = v.journal.isSome

/-- The identifier is drawn on the way from one world to another.  Only of these
has anything to be known: they are to be new in both worlds. -/
def Draws (w w' : World Memory) (id : Id) : Prop :=
  ∃ n, w.supply.drawn ≤ n ∧ n < w'.supply.drawn ∧ w.supply.ids n = id

/-- An event that is put on record in both worlds leaves them alike. -/
theorem AlikeFor.record (h : AlikeFor user w v) (event : Event) :
    AlikeFor user (w.record event) (v.record event) := by
  obtain ⟨store, journal, notices, supply⟩ := w
  obtain ⟨store', journal', notices', supply'⟩ := v
  have hj := h.journal
  cases journal <;> cases journal'
  · exact h
  · cases hj
  · cases hj
  · exact ⟨h.records, h.failing, h.supply.tick.2, rfl⟩

end World

/-- **One request in two worlds**: both give the same answer, as promised, and
stay alike for the user. -/
theorem World.AlikeFor.answer {user : String} {own fresh : Id → Prop} {w v : World Memory}
    (h : w.AlikeFor user v) (hw : w.store.Reserves user own fresh)
    (hv : v.store.Reserves user own fresh)
    (hown : ∀ r ∈ w.store.rules, r.user = user → own r.id) {r : Request}
    (hr : (Contract.affairs user own fresh).allows r)
    (hfresh : r = .freshId → fresh (w.supply.ids w.supply.drawn)) :
    (v.answer r).1 = (w.answer r).1 ∧ (Contract.affairs user own fresh).promises r (w.answer r).1 ∧
      (w.answer r).2.AlikeFor user (v.answer r).2 := by
  cases r with
  | call c =>
    obtain ⟨ha, hs⟩ := Memory.answer_sameOf hr h.records h.failing hw hv
    refine ⟨ha.symm, Memory.promises_answer hr hown, hs, ?_, h.supply, h.journal⟩
    have hfailing := (v.store.wrote_answer c).failing
    exact (w.store.wrote_answer c).failing.trans (h.failing.trans hfailing.symm)
  | now =>
    obtain ⟨ht, hs⟩ := h.supply.tick
    exact ⟨ht.symm, trivial, h.records, h.failing, hs, h.journal⟩
  | freshId =>
    obtain ⟨hd, hs⟩ := h.supply.draw
    exact ⟨hd.symm, hfresh rfl, h.records, h.failing, hs, h.journal⟩
  | record event => exact ⟨rfl, trivial, h.record event⟩
  | notice error => exact ⟨rfl, trivial, h.records, h.failing, h.supply, h.journal⟩

/-- **Users are isolated.** Two worlds that look the same to a user give each
operation of that user the same result and leave the same records of that user,
and no operation of one user changes a record of another. -/
theorem users_are_isolated {w v : World Memory} (hw : Reachable w) (hv : Reachable v) (e : Turn) :
    (w.AlikeFor e.user v → (∀ id, w.Draws (e.after w) id → w.store.Lacks id ∧ v.store.Lacks id) →
      (e.run w).1 = (e.run v).1 ∧ (e.after w).store.SameOf e.user (e.after v).store) ∧
    ∀ other, other ≠ e.user → (e.after w).store.SameOf other w.store := by
  refine ⟨fun halike hdrawn => ?_, fun other hne => ?_⟩
  · let own : Id → Prop := fun id => w.store.Owns e.user id ∧ v.store.Owns e.user id
    let fresh : Id → Prop := fun id => w.store.Lacks id ∧ v.store.Lacks id
    -- In the two runs the worlds stay alike, and in each of them nobody else does anything.
    let R : World Memory → World Memory → Prop := fun w' v' =>
      w'.AlikeFor e.user v' ∧ Memory.Since e.user w.store w'.store ∧
        Memory.Since e.user v.store v'.store ∧ w.supply.LeadsTo w'.supply
    have hstart : R w v :=
      ⟨halike, .refl _ hw.distinctRules, .refl _ hv.distinctRules, .refl _⟩
    have hstep : ∀ r w' v', R w' v' → (Contract.affairs e.user own fresh).allows r →
        (w'.answer r).2.supply.drawn ≤ (e.after w).supply.drawn →
          (v'.answer r).1 = (w'.answer r).1 ∧
            (Contract.affairs e.user own fresh).promises r (w'.answer r).1 ∧
              R (w'.answer r).2 (v'.answer r).2 := by
      rintro r w' v' ⟨ha, hsw, hsv, hle⟩ hr hbound
      have hown : ∀ r ∈ w'.store.rules, r.user = e.user → own r.id := by
        refine fun r hr hu => ⟨hsw.owns hr hu, hsv.owns ?_ hu⟩
        have hmem : r ∈ v'.store.rules.filter (·.user == e.user) := by
          rw [← ha.records.rules]
          exact List.mem_filter.2 ⟨hr, beq_iff_eq.2 hu⟩
        exact List.mem_of_mem_filter hmem
      have hfresh : r = .freshId → fresh (w'.supply.ids w'.supply.drawn) := by
        rintro rfl
        exact hdrawn _ ⟨_, hle.drawn, hbound, congrFun hle.ids.symm _⟩
      obtain ⟨hanswer, hpromise, halike'⟩ := ha.answer
        (hsw.reserves (fun _ h => h.1) fun _ h => h.1)
        (hsv.reserves (fun _ h => h.2) fun _ h => h.2) hown hr hfresh
      refine ⟨hanswer, hpromise, halike', ?_, ?_, hle.trans (w'.leadsTo_answer r)⟩
      · exact hsw.request (fun _ h => h.1) hr
      · exact hsv.request (fun _ h => h.2) hr
    obtain ⟨hresult, hend⟩ := Program.Meets.run_alike hstep
      (e.operation.action_affairs e.backfillIncludesManual e.user own fresh) hstart (Nat.le_refl _)
    exact ⟨hresult.symm, hend.1.records⟩
  · have hkeeps : ∀ r, (Contract.affairs e.user (w.store.Owns e.user) fun _ => True).Upholds
        (fun w' : World Memory => Memory.Since e.user w.store w'.store) r := by
      intro r w' hs hr
      refine ⟨?_, hs.request (fun _ h => h) hr⟩
      cases r with
      | call c => exact Memory.promises_answer hr fun r hr hu => hs.owns hr hu
      | _ => trivial
    exact (Program.Meets.run_keeps (e.operation.action_affairs e.backfillIncludesManual e.user _ _)
      hkeeps (.refl _ hw.distinctRules)).others other hne

/-! ### Two worlds to look at

Once ana has recorded her purchases, bob either opens an account or makes a
rule. -/

namespace Sample

/-- The world in which bob has an account, added after ana's run. -/
def withAccount : World Memory := Turn.after ⟨"bob", .addAccount { name := "chest" }, false⟩ free

/-- The world in which bob has a rule. -/
def withRule : World Memory := Turn.after ⟨"bob", .createRule
  { name := "all cakes", conditions := mentions "cake", category := some 1 }, false⟩ free

/-- Ana buys a biscuit. -/
def biscuit : Turn := ⟨"ana", purchase "bakery biscuit" none, false⟩

/-- Ana cannot tell the two worlds from each other. -/
theorem alike : withAccount.AlikeFor "ana" withRule where
  records := ⟨by decide +kernel, by decide +kernel, by decide +kernel⟩
  failing := by decide +kernel
  supply := by
    have haccount := Program.leadsTo_run (ExceptT.run (Operation.action false "bob"
      (.addAccount { name := "chest" }))) free
    have hrule := Program.leadsTo_run (ExceptT.run (Operation.action false "bob" (.createRule
      { name := "all cakes", conditions := mentions "cake", category := some 1 }))) free
    exact .of_counts (hrule.clock.trans haccount.clock.symm) (hrule.ids.trans haccount.ids.symm)
      (by decide +kernel) (by decide +kernel)
  journal := by decide +kernel

end Sample

/-- What ana's biscuit is classified as has nothing to do with bob, whatever he
has in his part of the store. -/
theorem biscuit_is_anas_affair :
    (Sample.biscuit.run Sample.withAccount).1.isOk = true ∧
      (Sample.biscuit.run Sample.withAccount).1 = (Sample.biscuit.run Sample.withRule).1 ∧
      (Sample.biscuit.after Sample.withRule).store.SameOf "bob" Sample.withRule.store := by
  have haccount : Reachable Sample.withAccount := Sample.reachable_free.next _
  have hrule : Reachable Sample.withRule := Sample.reachable_free.next _
  have hnew : ∀ id, Sample.withAccount.Draws (Sample.biscuit.after Sample.withAccount) id →
      Sample.withAccount.store.Lacks id ∧ Sample.withRule.store.Lacks id := by
    rintro id ⟨n, hle, hlt, rfl⟩
    have hfirst : Sample.withAccount.supply.drawn = 5 := by decide +kernel
    have hlast : (Sample.biscuit.after Sample.withAccount).supply.drawn = 6 := by decide +kernel
    obtain rfl : n = 5 := by omega
    exact ⟨⟨by decide +kernel, by decide +kernel⟩, by decide +kernel, by decide +kernel⟩
  refine ⟨by decide +kernel,
    ((users_are_isolated haccount hrule Sample.biscuit).1 Sample.alike hnew).1, ?_⟩
  exact (users_are_isolated hrule haccount Sample.biscuit).2 "bob" (by decide)

end LedgerRules
