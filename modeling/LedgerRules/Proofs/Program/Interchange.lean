/-
# The two stores are interchangeable

Operations of `RuleService` and `LedgerService` that are carried out one after
the other get the same answers from an empty `MemoryStore` and from an empty
`DuckDbRepository`, by value (`stores_are_interchangeable`): each operation is
carried out alike (`Operation.together`), and that goes through a list of them
(`agree_of_mirrors`).  The values that operations bring have to fit the cells of
a database, and so have the readings of the clock, which have to increase: rows
that were created at the same time may be listed in any order (`Ties`).

Two things can tell the two apart.  A bulk run writes its groups in an order
that the store chooses, each at its own time, so a transaction may have been
changed last at another moment of the same bulk run (`SameMoment`); and accounts
of equal names may be listed in another order (`Account.SameListing`).
-/

import LedgerRules.Proofs.Program.Mirroring

namespace LedgerRules

/-! ### Operations -/

/-- The values that an operation brings fit the cells of a database.  Other
values are stored rounded, or not at all, by one of the stores alone. -/
def Operation.Fits : Operation → Prop
  | addTransaction new => new.amount.FitsCell ∧ ∀ d ∈ new.date, d.FitsCell
  | updateTransaction _ update => (∀ a ∈ update.amount, a.FitsCell) ∧ ∀ d ∈ update.date, d.FitsCell
  | listTransactions _ limit => ∀ n ∈ limit, Number.fitsSigned n = true
  | createRule new => ∀ c, Conditions.validate new.conditions = .accepted c → c.FitsCell
  | updateRule _ update =>
    ∀ body ∈ update.conditions, ∀ c, Conditions.validate body = .accepted c → c.FitsCell
  | _ => True

/-- Two replies agree by value; the times of last changes are as `close` says.
Lists agree element by element, but accounts with one name may stand in any
order. -/
inductive Reply.SameValue (close : Instant → Instant → Prop) : Reply → Reply → Prop
  | account (a : Account) : SameValue close (.account a) (.account a)
  | accounts {l l' : List Account} (h : Account.SameListing l l') :
    SameValue close (.accounts l) (.accounts l')
  | transaction {t t' : Transaction} (h : t.SameValue close t') :
    SameValue close (.transaction t) (.transaction t')
  | transactions {l l' : List Transaction} (h : List.Forall₂ (Transaction.SameValue close) l l') :
    SameValue close (.transactions l) (.transactions l')
  | change {c c' : RuleChange} (h : c.SameValue c') : SameValue close (.change c) (.change c')
  | rule {r r' : Rule} (h : r.SameValue r') : SameValue close (.rule r) (.rule r')
  | rules {l l' : List Rule} (h : List.Forall₂ Rule.SameValue l l') :
    SameValue close (.rules l) (.rules l')
  | outcome (o : Outcome) : SameValue close (.outcome o) (.outcome o)
  | summary (x : BulkSummary) : SameValue close (.summary x) (.summary x)
  | nothing : SameValue close .nothing .nothing

/-- **Every operation is carried out alike.** Only a bulk run asks that readings
of the clock may stand for each other, because its groups may come in another
order. -/
theorem Operation.together {s : Span} {w : World Memory} {v : World Database} (op : Operation)
    (hop : op.Fits) (hs : s.Fits) {backfillIncludesManual : Bool}
    (hrun : (op.bulk? backfillIncludesManual).isSome = true → s.OneRun) (h : w.Mirrors s v)
    (user : String) :
    Action.Together s (op.action backfillIncludesManual user)
      (op.action backfillIncludesManual user)
      w v fun r r' w' v' => r.SameValue s.close r' ∧ w'.Mirrors s v' := by
  cases op with
  | addAccount new =>
    refine (Action.together_addAccount hs h new).map fun a _ _ _ hend => ?_
    obtain ⟨rfl, hend⟩ := hend
    exact ⟨.account _, hend⟩
  | listAccounts =>
    exact (Action.together_listAccounts h).map fun _ _ _ _ hend => ⟨.accounts hend.1, hend.2⟩
  | addTransaction new =>
    exact (Action.together_addTransaction hs h hop.1 hop.2).map fun _ _ _ _ hend =>
      ⟨.transaction hend.1, hend.2⟩
  | updateTransaction id update =>
    exact (Action.together_updateTransaction hs h id hop.1 hop.2).map fun _ _ _ _ hend =>
      ⟨.transaction hend.1, hend.2⟩
  | getTransaction id =>
    exact (Action.together_reread h id).map fun _ _ _ _ hend => ⟨.transaction hend.1, hend.2⟩
  | listTransactions account limit =>
    exact (Action.together_listTransactions h account hop).map fun _ _ _ _ hend =>
      ⟨.transactions hend.1, hend.2⟩
  | createRule new =>
    have hbackfill : new.backfill = true → s.OneRun := fun hb => hrun (by simp [bulk?, hb])
    exact (Action.together_createRule hs h hop hbackfill _).map fun _ _ _ _ hend =>
      ⟨.change hend.1, hend.2⟩
  | updateRule id update =>
    have hbackfill : update.backfill = true → s.OneRun := fun hb => hrun (by simp [bulk?, hb])
    exact (Action.together_updateRule hs h id hop hbackfill _).map fun _ _ _ _ hend =>
      ⟨.change hend.1, hend.2⟩
  | setActive id active =>
    exact (Action.together_setActive hs h id active).map fun _ _ _ _ hend => ⟨.rule hend.1, hend.2⟩
  | deleteRule id =>
    exact (Action.together_deleteRule h id).map fun _ _ _ _ hend => ⟨.nothing, hend⟩
  | getRule id =>
    refine (Action.together_getRule h id).map fun _ _ _ _ hend => ?_
    obtain ⟨-, hsame, rfl, rfl⟩ := hend
    exact ⟨.rule hsame, h⟩
  | listRules =>
    exact (Action.together_listRules h).map fun _ _ _ _ hend => ⟨.rules hend.1, hend.2⟩
  | applyToTransaction id =>
    refine (Action.together_applyToTransaction hs h id).map fun _ _ _ _ hend => ?_
    obtain ⟨rfl, hend⟩ := hend
    exact ⟨.outcome _, hend⟩
  | applyToExisting ids includeManual =>
    refine (Action.together_applyToExisting hs (hrun rfl) h ids includeManual).map
      fun _ _ _ _ hend => ?_
    obtain ⟨rfl, hend⟩ := hend
    exact ⟨.summary _, hend⟩

/-! ### Operations one after the other -/

/-- What operations answer, one after the other, each in the world that the ones
before it left.  An operation that fails does not end the run. -/
def Turn.answers {σ : Type} [Store σ] : List Turn → World σ → List (Except Error Reply)
  | [], _ => []
  | e :: turns, w =>
    let (r, w) := (e.operation.action e.backfillIncludesManual e.user).run w
    r :: answers turns w

/-- Answers to operations in two parts are those to the first part and then
those to the second, in the world after it. -/
theorem Turn.answers_append {σ : Type} [Store σ] (turns later : List Turn) (w : World σ) :
    Turn.answers (turns ++ later) w = Turn.answers turns w ++ Turn.answers later
      (turns.foldl (fun w e =>
        ((e.operation.action e.backfillIncludesManual e.user).run w).2) w) := by
  induction turns generalizing w with
  | nil => rfl
  | cons e turns ih => exact congrArg (List.cons _) (ih _)

/-- Two answers agree: both are replies of the same value, or both are the same
error. -/
def Reply.Agree (close : Instant → Instant → Prop) : Except Error Reply → Except Error Reply → Prop
  | .ok r, .ok r' => r.SameValue close r'
  | .error e, .error e' => e' = e
  | _, _ => False

/-- The clock gives a time on the way from one world to another.  Every time
that an operation writes down is one of these. -/
def World.Reads (w w' : World Memory) (t : Instant) : Prop :=
  ∃ n, w.supply.read ≤ n ∧ n < w'.supply.read ∧ w.supply.clock n = t

/-- Two times are equal, or the clock gives both during the same one of some
operations, and that one makes a bulk run. -/
def SameMoment (turns : List Turn) (start : World Memory) (a b : Instant) : Prop :=
  a = b ∨ ∃ before e later, turns = before ++ e :: later ∧ e.bulk?.isSome = true ∧
    let w := before.foldl (fun w e => e.after w) start
    w.Reads (e.after w) a ∧ w.Reads (e.after w) b

/-- Operations one after the other lead to a later supply. -/
theorem Turn.before_all (turns : List Turn) (w : World Memory) :
    w.supply.Before (turns.foldl (fun w e => e.after w) w).supply := by
  induction turns generalizing w with
  | nil => exact .refl _
  | cons e turns ih => exact (Action.before_run _ w).trans (ih (e.after w))

/-- Worlds that mirror each other at one moment do so from then on. -/
theorem World.Mirrors.restart {s : Span} {w : World Memory} {v : World Database}
    (h : w.Mirrors s v) (last : Supply) : w.Mirrors ⟨s.close, w.supply, last⟩ v :=
  ⟨h.store, h.distinct, h.distinctRules, h.staggered, h.drawn, h.noted, h.supply, h.journal,
    h.notices, .refl _⟩

/-- What ends together leaves mirrors, whether it succeeds or fails. -/
theorem Action.Ends.agree {s : Span} {w : World Memory} {v : World Database}
    {r r' : Except Error Reply}
    (h : Ends s (fun x y w' v' => x.SameValue s.close y ∧ w'.Mirrors s v') r r' w v) :
    Reply.Agree s.close r r' ∧ w.Mirrors s v := by
  cases r with
  | error e =>
    cases r' with
    | error e' => exact h
    | ok y => exact h.elim
  | ok x =>
    cases r' with
    | error e' => exact h.elim
    | ok y => exact h

/-- The operations that are left are answered alike. -/
theorem agree_of_mirrors {turns : List Turn} {start : World Memory}
    (hfits : ∀ e ∈ turns, e.operation.Fits) {last : Supply}
    (hclock : ∀ n < last.read, (last.clock n).FitsCell)
    (htimes : ∀ i j, i < j → j < last.read → last.clock i ≠ last.clock j)
    (hids : ∀ i j, i < j → j < last.drawn → last.ids i ≠ last.ids j)
    (rest : List Turn) {before : List Turn} (hturns : turns = before ++ rest)
    {w : World Memory} (hw : before.foldl (fun w e => e.after w) start = w)
    (hlast : (rest.foldl (fun w e => e.after w) w).supply.Before last) {v : World Database}
    (h : w.Mirrors ⟨SameMoment turns start, w.supply, last⟩ v) :
    List.Forall₂ (Reply.Agree (SameMoment turns start)) (Turn.answers rest w)
      (Turn.answers rest v) := by
  induction rest generalizing before w v with
  | nil => exact .nil
  | cons e rest ih =>
    have hafter : (e.after w).supply.Before last := (Turn.before_all rest (e.after w)).trans hlast
    have hspan : (⟨SameMoment turns start, w.supply, (e.after w).supply⟩ : Span).Fits := by
      refine ⟨fun t => .inl rfl, fun n hn => ?_, fun i j hij hj => ?_, fun i j hij hj => ?_⟩
      · have hfit := hclock n (Nat.lt_of_lt_of_le hn hafter.read)
        rwa [hafter.clock] at hfit
      · have hne := htimes i j hij (Nat.lt_of_lt_of_le hj hafter.read)
        rwa [hafter.clock] at hne
      · have hne := hids i j hij (Nat.lt_of_lt_of_le hj hafter.drawn)
        rwa [hafter.ids] at hne
    have hrun : (e.operation.bulk? e.backfillIncludesManual).isSome = true →
        (⟨SameMoment turns start, w.supply, (e.after w).supply⟩ : Span).OneRun := by
      intro hbulk i j hi hi' hj hj'
      have hsame : (e.after w).supply.clock = w.supply.clock := (Action.before_run _ w).clock
      have hreads : ∀ n, w.supply.read ≤ n → n < (e.after w).supply.read →
          w.Reads (e.after w) ((e.after w).supply.clock n) := fun n hn hn' =>
        ⟨n, hn, hn', (congrFun hsame n).symm⟩
      refine .inr ⟨before, e, rest, hturns, hbulk, ?_⟩
      rw [hw]
      exact ⟨hreads i hi hi', hreads j hj hj'⟩
    have hop := hfits e (hturns ▸ List.mem_append_right _ List.mem_cons_self)
    obtain ⟨hagree, hmirrors⟩ :=
      ((e.operation.together hop hspan hrun (h.restart _) e.user).ends (.refl _)).agree
    have hbefore : (before ++ [e]).foldl (fun w e => e.after w) start = e.after w := by
      rw [List.foldl_append, hw]
      rfl
    refine .cons hagree (ih ?_ hbefore hlast (hmirrors.restart last))
    rw [hturns, List.append_assoc]
    rfl

/-- The empty world: nothing has happened, and the clock and the identifiers are
given, to be the same for both stores. -/
def World.fresh {σ : Type} (store : σ) (journal : Option (Author × Journal)) (clock : Nat → Instant)
    (ids : Nat → Id) : World σ :=
  { store, journal, supply := { clock, ids } }

/-- **The two stores are interchangeable.** Carried out one after the other,
operations get the same answers from an empty store of records and from an empty
database, in whatever order the database finds level rows, if the values they
bring and the times they are carried out at fit cells, the clock goes forward
from each reading to the next, and no identifier is drawn twice.  Amounts and
the numbers of rules agree by value, and lists of accounts but for the order of
accounts of equal names.  When a transaction was changed last is the same too,
or both times are readings of the clock during one and the same operation that
makes a bulk run. -/
theorem stores_are_interchangeable (turns : List Turn) (ties : Ties)
    (journal : Option (Author × Journal)) (clock : Nat → Instant) (ids : Nat → Id)
    (hfits : ∀ e ∈ turns, e.operation.Fits)
    (hclock : ∀ n < (turns.foldl (fun w e => e.after w)
      (World.fresh {} journal clock ids)).supply.read, (clock n).FitsCell)
    (hincreasing : ∀ i j, i < j → j < (turns.foldl (fun w e => e.after w)
      (World.fresh {} journal clock ids)).supply.read → (clock i).before (clock j) = true)
    (hids : ∀ i j, i < j → j < (turns.foldl (fun w e => e.after w)
      (World.fresh {} journal clock ids)).supply.drawn → ids i ≠ ids j) :
    List.Forall₂ (Reply.Agree (SameMoment turns (World.fresh {} journal clock ids)))
      (Turn.answers turns (World.fresh ({} : Memory) journal clock ids))
      (Turn.answers turns (World.fresh ({ ties } : Database) journal clock ids)) := by
  have hbefore := Turn.before_all turns (World.fresh {} journal clock ids)
  have hstart : List.foldl (fun w e => Turn.after e w) (World.fresh {} journal clock ids) [] =
      World.fresh {} journal clock ids := rfl
  refine agree_of_mirrors hfits (fun n hn => ?_) (fun i j hij hj he => ?_) (fun i j hij hj => ?_)
    turns (List.nil_append turns).symm hstart (.refl _) ?_
  · rw [hbefore.clock]
    exact hclock n hn
  · rw [hbefore.clock] at he
    have hearlier : (clock i).before (clock j) = true := hincreasing i j hij hj
    rw [show clock i = clock j from he, Instant.before_self] at hearlier
    cases hearlier
  · rw [hbefore.ids]
    exact hids i j hij hj
  · exact ⟨⟨.nil, .nil, .nil, rfl, rfl⟩, List.nodup_nil, List.nodup_nil, List.nodup_nil,
    nofun, nofun, rfl, rfl, rfl, .refl _⟩

/-! ### A session to look at -/

namespace Sample

/-- The clock counts seconds. -/
def secondsFrom (start : Int) (n : Nat) : Instant := .ofSeconds (start + n)

/-- So it goes forward. -/
theorem secondsFrom_before (start : Int) {i j : Nat} (h : i < j) :
    (secondsFrom start i).before (secondsFrom start j) = true := by
  simp [secondsFrom, Instant.ofSeconds, Instant.before, h]

/-- Identifiers count up. -/
def draws (n : Nat) : Id := ⟨BitVec.ofNat 128 n⟩

/-- A purchase of a certain day. -/
def purchaseOn (date : Date) (description : String) (category : Option Int64) : Turn :=
  ⟨"ana", .addTransaction { account := ⟨0#128⟩, amount := .zero, description := some description
                            category, date := some date }, false⟩

/-- A rule body that looks for what costs nothing. -/
def gratis : Json :=
  .object [("logic", .str "and"), ("conditions", .arr [.object
    [("field", .str "amount"), ("operator", .str "equals"), ("value", .num (.whole 0))]])]

/-- Two purchases, the later one first, and a rule for both of them that goes by
the amount alone. -/
def larder : List Turn :=
  [⟨"ana", .addAccount { name := "cash" }, false⟩, purchaseOn ⟨9⟩ "bakery bread" (some 7),
    purchaseOn ⟨5⟩ "bakery cake" none,
    ⟨"ana", .createRule
      { name := "baker", conditions := gratis, category := some 9
        merchant := some "Baker" }, false⟩]

/-- The later purchase is looked at. -/
def look : Turn := ⟨"ana", .getTransaction ⟨1#128⟩, false⟩

/-- A database that finds the rows inserted last before all others, which no
order of a statement forbids. -/
def backwards : Ties where
  accounts _ := ⟨List.reverse, List.reverse_perm⟩
  transactions _ := ⟨List.reverse, List.reverse_perm⟩
  rules _ := ⟨List.reverse, List.reverse_perm⟩

/-- A bulk run writes each purchase in a group of its own, and one of them is
looked at. -/
def baking : List Turn := larder ++ [bulk, look]

end Sample

/-- All of the session succeeds, and is answered alike, though the database
finds rows backwards. -/
theorem baking_is_interchangeable :
    (∀ r ∈ Turn.answers Sample.baking
        (World.fresh ({} : Memory) none (Sample.secondsFrom 0) Sample.draws), r.isOk = true) ∧
      List.Forall₂ (Reply.Agree (SameMoment Sample.baking
          (World.fresh {} none (Sample.secondsFrom 0) Sample.draws)))
        (Turn.answers Sample.baking
          (World.fresh ({} : Memory) none (Sample.secondsFrom 0) Sample.draws))
        (Turn.answers Sample.baking
          (World.fresh ({ ties := Sample.backwards } : Database) none (Sample.secondsFrom 0)
            Sample.draws)) := by
  have hzero : Decimal.zero.FitsCell := ⟨0, by norm_num [Decimal.zero, Decimal.value], by decide⟩
  have hdates : Date.FitsCell ⟨9⟩ ∧ Date.FitsCell ⟨5⟩ := by decide +kernel
  have hrule : ∀ c, Conditions.validate (Sample.gratis) = .accepted c → c.FitsCell := by
    intro c hc
    have hbody : Conditions.validate (Sample.gratis) = .accepted ⟨.and,
        [.numeric .amount (.equals .zero)]⟩ := by decide +kernel
    obtain rfl := Verdict.accepted.inj (hc.symm.trans hbody)
    exact fun d hd => ⟨0, by rw [List.mem_singleton.1 hd]; decide, by decide⟩
  obtain ⟨last, hlast⟩ : ∃ last, last = (Sample.baking.foldl (fun w e => e.after w)
      (World.fresh {} none (Sample.secondsFrom 0) Sample.draws)).supply := ⟨_, rfl⟩
  obtain ⟨hread, hdrawn⟩ : last.read = 9 ∧ last.drawn = 4 := by
    rw [hlast]
    decide +kernel
  refine ⟨by decide +kernel, stores_are_interchangeable _ _ _ _ _ ?_ ?_ ?_ ?_⟩
  · simp only [Sample.baking, Sample.larder, List.cons_append, List.nil_append,
      List.forall_mem_cons]
    refine ⟨trivial, ⟨hzero, ?_⟩, ⟨hzero, ?_⟩, hrule, trivial, trivial,
      List.forall_mem_nil _⟩
    · rintro _ ⟨⟩
      exact hdates.1
    · rintro _ ⟨⟩
      exact hdates.2
  · rw [← hlast, hread]
    decide +kernel
  · exact fun i j hij _ => Sample.secondsFrom_before 0 hij
  · rw [← hlast, hdrawn]
    intro i j hij hj he
    have hcode := congrArg (fun id => id.code.toNat) he
    simp only [Sample.draws, BitVec.toNat_ofNat] at hcode
    omega

/-! ### What tells the stores apart -/

/-- Carried out one after the other on a clock and with identifiers, operations
get the very same answers from the two stores, but for how numbers are written. -/
def Turn.AnsweredExactly (turns : List Turn) (clock : Nat → Instant) (ids : Nat → Id) : Prop :=
  List.Forall₂ (Reply.Agree Eq) (Turn.answers turns (World.fresh ({} : Memory) none clock ids))
    (Turn.answers turns (World.fresh ({} : Database) none clock ids))

/-- Whether there is a reply, and when the transaction in it was changed last.
Two answers that agree may still differ in the latter. -/
def Reply.outline : Except Error Reply → Option (Option Instant)
  | .error _ => none
  | .ok (.transaction t) => some (some t.updatedAt)
  | .ok _ => some none

/-- Answers that agree have the same outline. -/
theorem Reply.Agree.outline {r r' : Except Error Reply} (h : Reply.Agree Eq r r') :
    Reply.outline r' = Reply.outline r := by
  cases r with
  | error e =>
    cases r' with
    | error e' => rfl
    | ok y => exact h.elim
  | ok x =>
    cases r' with
    | error e' => exact h.elim
    | ok y =>
      cases (h : x.SameValue Eq y) with
      | transaction ht => exact congrArg (some ∘ some) ht.updatedAt.symm
      | _ => rfl

/-- Exact answers have the same outlines. -/
theorem Turn.AnsweredExactly.outline {turns : List Turn} {clock : Nat → Instant} {ids : Nat → Id}
    (h : Turn.AnsweredExactly turns clock ids) :
    (Turn.answers turns (World.fresh ({} : Database) none clock ids)).map Reply.outline =
      (Turn.answers turns (World.fresh ({} : Memory) none clock ids)).map Reply.outline :=
  map_eq_of_forall₂ (fun _ _ hr => Reply.Agree.outline hr) h

namespace Sample

/-- The database with the larder in it. -/
def stocked : World Database :=
  larder.foldl (fun w e => ((e.operation.action e.backfillIncludesManual e.user).run w).2)
    (World.fresh {} none (secondsFrom 0) draws)

/-- The later purchase, as the database reads it back. -/
def lateBread : Transaction := { bread with date := ⟨9⟩, amount := .ofCents 0 }

/-- The earlier purchase, as the database reads it back. -/
def earlyCake : Transaction := { cake with date := ⟨5⟩, amount := .ofCents 0 }

/-- The rule. -/
def baker : Rule :=
  { id := ⟨3#128⟩, user := "ana", name := "baker"
    conditions := ⟨.and, [.numeric .amount (.equals .zero)]⟩
    category := some 9, merchant := some "Baker", active := true, priority := 0, source := .user
    timesApplied := 0, lastAppliedAt := none, createdAt := ⟨5, 0⟩, updatedAt := ⟨5, 0⟩ }

/-- The database takes the earlier purchase first. -/
theorem eligible_of_larder {d : Database}
    (h : d.transactions = [.of lateBread, .of earlyCake]) :
    d.eligible "ana" none false = .ok [earlyCake, lateBread] := by
  unfold Database.eligible
  dsimp only
  rw [h, List.filter_eq_self.2 (by decide), mergeSort_pair]
  decide +kernel

/-- In the database the later purchase is in the second group. -/
theorem outline_look_stocked :
    (Turn.answers [bulk, look] stocked).map Reply.outline = [some none, some (some ⟨7, 0⟩)] := by
  obtain ⟨hbaker, hrows⟩ : ((Action.activeRules "ana").run stocked).1 = .ok [baker] ∧
      ((Action.activeRules "ana").run stocked).2.store.transactions =
        [.of lateBread, .of earlyCake] := by decide +kernel
  obtain ⟨w, hw⟩ : ∃ w, ((Action.activeRules "ana").run stocked).2 = w := ⟨_, rfl⟩
  have hrules : (Action.activeRules "ana").run stocked = (.ok [baker], w) := Prod.ext hbaker hw
  have heligible : (Action.call (.eligible "ana" none false)).run w =
      (.ok [earlyCake, lateBread], w) :=
    congrArg (Prod.mk · w) (eligible_of_larder (hw ▸ hrows))
  have hbulk : (bulk.operation.action bulk.backfillIncludesManual bulk.user).run stocked =
      (((Action.applyToExisting "ana" none false).run stocked).1.map .summary,
        ((Action.applyToExisting "ana" none false).run stocked).2) := Action.run_map ..
  unfold Turn.answers
  rw [hbulk]
  unfold Action.applyToExisting
  rw [Action.run_bind_ok hrules, if_neg (by decide), Action.run_bind_ok heligible, ← hw]
  decide +kernel

/-- Two accounts. -/
def accounts : List Turn :=
  [⟨"ana", .addAccount { name := "cash" }, false⟩, ⟨"ana", .addAccount { name := "bank" }, false⟩]

/-- A purchase of the first day of the year before the year 1. -/
def antique : List Turn :=
  [⟨"ana", .addAccount { name := "cash" }, false⟩, purchaseOn ⟨-719528⟩ "amphora" none]

end Sample

/-- The stores differ for a date of the year 0, though it is written with four
digits; for a clock past the year 9999; where an identifier is drawn twice; and
in when a bulk run has changed a transaction. -/
theorem stores_can_be_told_apart :
    (∀ start n, (Sample.secondsFrom start n).before (Sample.secondsFrom start (n + 1)) = true ∧
        Instant.ofMicros (Sample.secondsFrom start n).micros = Sample.secondsFrom start n) ∧
      (⟨-719528⟩ : Date).text = "0000-01-01" ∧
      ¬Turn.AnsweredExactly Sample.antique (Sample.secondsFrom 0) Sample.draws ∧
      ¬Turn.AnsweredExactly Sample.accounts (Sample.secondsFrom 315569520000) Sample.draws ∧
      ¬Turn.AnsweredExactly Sample.accounts (Sample.secondsFrom 0) (fun _ => ⟨0#128⟩) ∧
      ¬Turn.AnsweredExactly Sample.baking (Sample.secondsFrom 0) Sample.draws := by
  refine ⟨fun start n => ⟨?_, ?_⟩, by decide +kernel, fun h => ?_, fun h => ?_, fun h => ?_,
    fun h => ?_⟩
  · exact Sample.secondsFrom_before start (Nat.lt_succ_self n)
  · simp [Sample.secondsFrom, Instant.ofSeconds, Instant.ofMicros, Instant.micros]
  · exact absurd h.outline (by decide +kernel)
  · exact absurd h.outline (by decide +kernel)
  · exact absurd h.outline (by decide +kernel)
  · have hdatabase : (Turn.answers Sample.baking
        (World.fresh ({} : Database) none (Sample.secondsFrom 0) Sample.draws)).map Reply.outline =
        (Turn.answers Sample.larder (World.fresh ({} : Database) none (Sample.secondsFrom 0)
          Sample.draws)).map Reply.outline ++ [some none, some (some ⟨7, 0⟩)] := by
      rw [Sample.baking, Turn.answers_append, List.map_append]
      exact congrArg (_ ++ ·) Sample.outline_look_stocked
    exact absurd (hdatabase.symm.trans h.outline) (by decide +kernel)

end LedgerRules
