/-
# Stores that operations lead to

A run is any sequence of operations of any users, over a store that is empty at
first.  Which grouped writes fail may be chosen anew before each operation, and
the clock, the identifiers that are drawn and the journal are arbitrary:
identifiers may even repeat.

The identifiers of transactions are distinct in every store that a run leads to
(`Reachable.distinct`).  Given that, a step changes a transaction in one of four
ways (`Memory.Changed`), or it puts a new one behind the others.
-/

import LedgerRules.Proofs.Program.Steps

namespace LedgerRules
namespace Memory

variable {backfillIncludesManual : Bool} {user : String} {op : Operation} {m m' : Memory}

/-- What a step of an operation makes of one transaction: nothing, an edit, what
the rules make of it alone, or what a bulk run makes of it. -/
inductive Changed (backfillIncludesManual : Bool) (user : String) (op : Operation) (m : Memory)
    (t : Transaction) : Transaction → Prop
  | kept : Changed backfillIncludesManual user op m t t
  | edited {update : TransactionUpdate} (hop : op = .updateTransaction t.id update)
      (hu : t.user = user) (now : Instant) :
    Changed backfillIncludesManual user op m t { update.apply t with updatedAt := now }
  | classified (hop : op.classifies = true) (hu : t.user = user) (now : Instant) :
    Changed backfillIncludesManual user op m t (t.assign (m.proposal user false t).category
      (m.proposal user false t).merchant now)
  | reapplied {ids : Option (List Id)} {includeManual : Bool}
      (hop : op.bulk? backfillIncludesManual = some (ids, includeManual))
      (ho : m.Overwrites user ids includeManual t) (now : Instant) :
    Changed backfillIncludesManual user op m t (t.assign (m.proposal user includeManual t).category
      (m.proposal user includeManual t).merchant now)

/-- No step changes whose a transaction is, or its identifier. -/
theorem Changed.same {t t' : Transaction} (h : m.Changed backfillIncludesManual user op t t') :
    t'.id = t.id ∧ t'.user = t.user := by
  cases h <;> exact ⟨rfl, rfl⟩

/-- Where identifiers are distinct, rules are applied to the one transaction
they were asked to be applied to. -/
theorem Classifies.transactions (hd : m.Distinct) {id : Id} {r : Except Error Outcome}
    (h : m.Classifies user id r m') (hop : op.classifies = true) :
    List.Forall₂ (m.Changed backfillIncludesManual user op) m.transactions m'.transactions := by
  cases h with
  | missing _ => exact List.forall₂_same.2 fun _ _ => .kept
  | silent _ _ _ => exact List.forall₂_same.2 fun _ _ => .kept
  | refused _ _ _ hf now =>
    rw [assign_of_failing hf]
    exact List.forall₂_same.2 fun _ _ => .kept
  | @written t o h hp ho hf now later =>
    obtain ⟨ht, rfl, rfl⟩ := transaction?_mem h
    rw [(sameButUsage_countAll _ _ _).transactions, assign_of_not_failing hf]
    refine List.forall₂_map_right_iff.2 (List.forall₂_same.2 fun s hs => ?_)
    split
    · rename_i hr
      obtain ⟨-, hid⟩ := reaches_iff.1 hr
      obtain rfl := hd.eq_of_id hs ht (List.mem_singleton.1 hid)
      rw [← hp]
      exact .classified hop rfl now
    · exact .kept

/-- A transaction that a step puts behind the others: a request asked for it, on
an account of the user, and its identifier is new. -/
inductive Entered (user : String) (m : Memory) : Operation → Transaction → Prop
  | mk {new : NewTransaction} {account : Account} {id : Id} {today : Date} {now : Instant}
      (ha : m.account? user new.account = some account) (hid : ∀ s ∈ m.transactions, s.id ≠ id) :
    Entered user m (.addTransaction new) (new.transaction account id user today now)

/-- The identifier of a transaction that is entered is new. -/
theorem Entered.fresh {t : Transaction} (h : m.Entered user op t) :
    ∀ s ∈ m.transactions, s.id ≠ t.id := by
  cases h with
  | mk _ hid => exact hid

/-- **What a step makes of the transactions**: it changes each in place, or it
puts a new one behind them.  None is ever taken out. -/
theorem Step.transactions (hd : m.Distinct) (h : Step backfillIncludesManual user op m m') :
    List.Forall₂ (m.Changed backfillIncludesManual user op) m.transactions m'.transactions ∨
      ∃ t, m.Entered user op t ∧ m'.transactions = m.transactions ++ [t] := by
  cases h with
  | enroll _ => exact .inl (List.forall₂_same.2 fun _ _ => .kept)
  | enter ha hid => exact .inr ⟨_, .mk ha hid, rfl⟩
  | @edit _ id update old now h =>
    refine .inl (forall₂_modifyFirst (fun _ => .kept) fun s hs => ?_)
    obtain rfl := Option.some.inj (hs.symm.trans h)
    obtain ⟨-, rfl, rfl⟩ := transaction?_mem h
    exact .edited rfl rfl now
  | classify hop h => exact .inl (h.transactions hd hop)
  | bulk hop h =>
    refine .inl ((h.transactions hd).imp fun t t' ht => ?_)
    cases ht with
    | kept _ => exact .kept
    | assigned ho now => exact .reapplied hop ho now
  | create _ _ _ _ => exact .inl (List.forall₂_same.2 fun _ _ => .kept)
  | change _ _ _ _ => exact .inl (List.forall₂_same.2 fun _ _ => .kept)
  | delete => exact .inl (List.forall₂_same.2 fun _ _ => .kept)

/-- Steps keep the identifiers of transactions distinct. -/
theorem Step.distinct (h : Step backfillIncludesManual user op m m') (hd : m.Distinct) :
    m'.Distinct := by
  unfold Distinct at hd ⊢
  rcases h.transactions hd with h | ⟨t, hin, h⟩
  · rwa [map_eq_of_forall₂ (fun _ _ h => h.same.1) h]
  · rw [h]
    exact nodup_map_concat hd hin.fresh

/-- Every transaction stays in the store, changed as a step may change it. -/
theorem Step.exists_changed (hd : m.Distinct) (h : Step backfillIncludesManual user op m m')
    {t : Transaction} (ht : t ∈ m.transactions) :
    ∃ t' ∈ m'.transactions, m.Changed backfillIncludesManual user op t t' := by
  rcases h.transactions hd with h | ⟨s, -, h⟩
  · exact exists_of_forall₂ h t ht
  · exact ⟨t, h ▸ List.mem_append_left _ ht, .kept⟩

end Memory

/-! ### Runs -/

/-- One operation of a run: whose it is, and what the services are set to.  The
setting is one of the services, so it is no part of the operation. -/
structure Turn where
  user : String
  operation : Operation
  backfillIncludesManual : Bool := false

namespace Turn

/-- What an operation answers, and the world after it, whether it succeeds or
fails. -/
def run (e : Turn) (w : World Memory) : Except Error Reply × World Memory :=
  (e.operation.action e.backfillIncludesManual e.user).run w

/-- The world after an operation, whether it succeeds or fails. -/
def after (e : Turn) (w : World Memory) : World Memory := (e.run w).2

/-- The bulk run of an operation, if it makes one. -/
def bulk? (e : Turn) : Option (Option (List Id) × Bool) :=
  e.operation.bulk? e.backfillIncludesManual

/-- The steps of an operation lead to the store after it. -/
theorem steps (e : Turn) (w : World Memory) :
    Relation.ReflTransGen (Memory.Step e.backfillIncludesManual e.user e.operation) w.store
      (e.after w).store :=
  Action.takes_steps e.backfillIncludesManual e.user e.operation w

/-- What every step keeps an operation keeps. -/
theorem after_induction {I : Memory → Prop} {e : Turn} {w : World Memory} (h : I w.store)
    (hs : ∀ m m', Memory.Step e.backfillIncludesManual e.user e.operation m m' → I m → I m') :
    I (e.after w).store := by
  have hsteps := e.steps w
  generalize (e.after w).store = m at hsteps ⊢
  induction hsteps with
  | refl => exact h
  | tail _ hstep ih => exact hs _ _ hstep ih

end Turn

/-- The worlds that a run leads to: from an empty store any operations of any
users are carried out, and between them it may be chosen which writes fail. -/
inductive Reachable : World Memory → Prop
  | start (failing : List (Option Int64 × Option String)) (journal : Option (Author × Journal))
      (notices : List Error) (supply : Supply) :
    Reachable { store := { failing }, journal, notices, supply }
  | choose {w : World Memory} (h : Reachable w) (failing : List (Option Int64 × Option String)) :
    Reachable (w.withStore { w.store with failing })
  | next {w : World Memory} (h : Reachable w) (e : Turn) : Reachable (e.after w)

namespace Reachable

variable {w : World Memory}

/-- What holds of an empty store and is kept by every step holds wherever a run
leads. -/
theorem induction {I : Memory → Prop} (h : Reachable w) (start : ∀ failing, I { failing })
    (choose : ∀ m failing, I m → I { m with failing })
    (step : ∀ cfg user op m m', Memory.Step cfg user op m m' → I m → I m') : I w.store := by
  induction h with
  | start failing _ _ _ => exact start failing
  | choose _ failing ih => exact choose _ failing ih
  | next _ e ih => exact e.after_induction ih fun m m' => step _ _ _ m m'

/-- **The identifiers of transactions are distinct** wherever a run leads, as
one that is taken is refused. -/
theorem distinct (h : Reachable w) : w.store.Distinct :=
  h.induction (fun _ => List.nodup_nil) (fun _ _ hd => hd) fun _ _ _ _ _ hs hd => hs.distinct hd

/-- Several operations one after the other. -/
theorem all (h : Reachable w) (turns : List Turn) :
    Reachable (turns.foldl (fun w e => e.after w) w) := by
  induction turns generalizing w with
  | nil => exact h
  | cons e turns ih => exact ih (h.next e)

end Reachable

/-! ### A run to look at

Two purchases are recorded, the first with a category of its own, and then a
rule is made that matches both.  Writes of what it proposes for the second one
fail. -/

namespace Sample

/-- A rule body that looks for a text in the description. -/
def mentions (text : String) : Json :=
  .object [("logic", .str "and"), ("conditions", .arr [.object
    [("field", .str "description"), ("operator", .str "contains"), ("value", .str text)]])]

/-- A purchase, and the category it was given by hand. -/
def purchase (description : String) (category : Option Int64) : Operation :=
  .addTransaction
    { account := ⟨0#128⟩, amount := .zero, description := some description, category }

/-- The run: an account, two purchases of which one has a category given by
hand, and a rule for both. -/
def turns : List Turn :=
  [⟨"ana", .addAccount { name := "cash" }, false⟩,
    ⟨"ana", purchase "bakery bread" (some 7), false⟩,
    ⟨"ana", purchase "bakery cake" none, false⟩,
    ⟨"ana", .createRule
      { name := "baker", conditions := mentions "bakery", category := some 9
        merchant := some "Baker" }, false⟩]

/-- The empty world before the run: the clock counts seconds, identifiers count
up. -/
def start : World Memory :=
  { store := { failing := [(some 9, some "Baker")] }
    supply := { clock := fun n => ⟨n, 0⟩, ids := fun n => ⟨BitVec.ofNat 128 n⟩ } }

/-- The world after the run. -/
def world : World Memory := turns.foldl (fun w e => e.after w) start

/-- A run leads to it. -/
theorem reachable_world : Reachable world := (Reachable.start _ _ _ _).all turns

/-- The world after the run, where no write is made to fail any more. -/
def free : World Memory := world.withStore { world.store with failing := [] }

/-- A run leads to it, since which writes fail may be chosen at any time. -/
theorem reachable_free : Reachable free := reachable_world.choose []

/-- The first purchase, whose category was given by hand. -/
def bread : Transaction :=
  { id := ⟨1#128⟩, user := "ana", account := ⟨0#128⟩, amount := .zero, direction := some 1
    description := some "bakery bread", currency := some "USD", category := some 7, date := ⟨0⟩
    createdAt := ⟨2, 0⟩, updatedAt := ⟨2, 0⟩, categoryManual := true }

/-- The second purchase, with nothing given by hand. -/
def cake : Transaction :=
  { id := ⟨2#128⟩, user := "ana", account := ⟨0#128⟩, amount := .zero, direction := some 1
    description := some "bakery cake", currency := some "USD", date := ⟨0⟩
    createdAt := ⟨4, 0⟩, updatedAt := ⟨4, 0⟩ }

/-- A bulk run over everything that leaves alone what was set by hand. -/
def bulk : Turn := ⟨"ana", .applyToExisting none false, false⟩

end Sample
end LedgerRules
