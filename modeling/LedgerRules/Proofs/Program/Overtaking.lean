/-
# Edits by hand while rules are applied

An application of rules reads a transaction and writes its targets later, and
the write looks at no mark.  An edit by hand that is made in between marks the
transaction too late: the application *overtakes* it, and the target may end up
with what the rules proposed for the transaction as it was before.  That is the
only way to lose it (`hand_set_outlives_unless_overtaken`).

Until the edit stores its row, all that matters is whether the application has
read the transaction.  If it has not, it will see the mark, and what it writes
from then on leaves the target alone.  If it has, its later writes are the ones
that may give the target something else.  The mark itself is written by rows
only, and an application stores none.
-/

import LedgerRules.Proofs.Program.Touching

namespace LedgerRules

variable {t : Transaction}

/-- A target of a transaction, and how it is set by hand. -/
structure HandTarget (β : Type) extends Target β where
  /-- What an update sets by hand, and does not release at once. -/
  given : TransactionUpdate → Option β
  proposed_pair : ∀ o : Outcome,
    proposed { category := o.pair.1, merchant := o.pair.2 } = proposed o
  unproposed : ∀ (rules : List Rule) (t : Transaction) (account : Option AccountView),
    manual t = true → proposed (Action.bulkOutcome rules false t account) = none
  apply_given : ∀ (u : TransactionUpdate) (t : Transaction) (now : Instant) (x : β),
    given u = some x → manual { u.apply t with updatedAt := now } = true ∧
      value { u.apply t with updatedAt := now } = some x

namespace HandTarget

/-- The category of a transaction, and when an update sets it by hand. -/
def category : HandTarget Int64 where
  toTarget := Target.category
  given u := if u.releaseCategory then none else u.category
  proposed_pair _ := rfl
  unproposed rules t account h := by
    show (Action.bulkOutcome rules false t account).category = none
    have h : t.categoryManual = true := h
    unfold Action.bulkOutcome
    rw [h]
    rfl
  apply_given u t now x h := by
    rw [Option.ite_none_left_eq_some] at h
    show ((u.category.isSome || t.categoryManual) && !u.releaseCategory) = true ∧
      u.category.or t.category = some x
    rw [h.2, Bool.eq_false_iff.2 h.1]
    exact ⟨rfl, rfl⟩

/-- The merchant of a transaction, and when an update sets it by hand: a blank
one does not count. -/
def merchant : HandTarget String where
  toTarget := Target.merchant
  given u := if u.releaseMerchant then none else normalizeMerchant u.merchant
  proposed_pair _ := rfl
  unproposed rules t account h := by
    show (Action.bulkOutcome rules false t account).merchant = none
    have h : t.merchantManual = true := h
    unfold Action.bulkOutcome
    rw [h]
    rfl
  apply_given u t now x h := by
    rw [Option.ite_none_left_eq_some] at h
    obtain ⟨hrel, hx⟩ := h
    cases hm : u.merchant with
    | none => exact absurd (hm ▸ hx) nofun
    | some m =>
      rw [hm] at hx
      simp [Target.merchant, TransactionUpdate.apply, hm, hx, hrel]

variable {β : Type} (target : HandTarget β)

/-- What an application is held to once it can see the mark of a transaction:
what it writes was proposed for what it saw, and it saw the transaction only
with its mark. -/
def respects (id : Id) : Contract :=
  .proposals fun s => s.id = id → target.manual s = true

variable {target}

/-- It gives the target nothing. -/
theorem gives_of_respects {user : String} {id : Id} {r : Request}
    (h : (target.respects id).allows r) : r.gives target.toTarget user id = none := by
  unfold Request.gives
  split
  · rename_i user' category merchant ids now
    split
    · rename_i hreach
      rw [Bool.and_eq_true, List.contains_iff_mem] at hreach
      obtain ⟨s, hs, hid, rules, account, hpair⟩ := h id hreach.2
      have hnone := target.unproposed rules s account (hs hid)
      rwa [← target.proposed_pair, hpair] at hnone
    · rfl
  · rfl

/-- A write of an application keeps the mark, and gives the target what it
gives. -/
theorem proposals_uphold {F : Option β → Prop} {r : Request}
    (hF : ∀ y, r.gives target.toTarget t.user t.id = some y → F (some y)) :
    (Contract.proposals fun _ => True).Upholds (fun w : World Memory => w.store.Holds t fun s =>
      target.manual s = true ∧ F (target.value s)) r := by
  refine Contract.upholds_holds (fun _ _ _ _ => trivial) (fun _ _ => trivial)
    fun _ s s' hid hu hs ht => ?_
  obtain ⟨hmark, hvalue⟩ := ht.target target.toTarget
  rw [hid, hu] at hvalue
  refine ⟨hmark.trans hs.1, ?_⟩
  rcases hvalue with hv | ⟨hv, hgives⟩
  · rw [hv]
    exact hs.2
  · obtain ⟨y, hy⟩ := Option.isSome_iff_exists.1 hgives
    rw [hv, hy]
    exact hF y hy

/-- An application that can see the mark keeps it, and the target with it. -/
theorem respects_upholds (F : Option β → Prop) (r : Request) :
    (target.respects t.id).Upholds (fun w : World Memory => w.store.Holds t fun s =>
      target.manual s = true ∧ F (target.value s)) r := by
  refine Contract.upholds_holds (fun s _ hs _ _ => hs.1) (fun s hs hid => absurd hid hs)
    fun ha s s' hid hu hs ht => ?_
  obtain ⟨hmark, hvalue⟩ := ht.target target.toTarget
  rw [gives_of_respects (hid ▸ ha)] at hvalue
  rcases hvalue with hv | ⟨-, hsome⟩
  · rwa [hmark, hv]
  · exact Bool.noConfusion hsome

end HandTarget

/-! ### The edit stores its row -/

/-- The first of two programs is an application; if it has not read a
transaction so far, it will see the mark. -/
structure Unread {α β : Type} (target : HandTarget β) (t : Transaction)
    (before : List (Request ⊕ Request)) (p : Program α) : Prop where
  proposes : p.Meets (.proposals fun _ => True) fun _ => True
  unread : (∀ r, .inl r ∈ before → r.reads t.user t.id = false) →
    p.Meets (target.respects t.id) fun _ => True

variable {α β γ : Type} {target : HandTarget β} {p : Program α} {w w' : World Memory}
  {before trace : List (Request ⊕ Request)} {a : α} {b : γ}

/-- Up to the next request of the edit, the transaction stays, and the
application does not see it unless it reads it. -/
theorem Unread.second_next {r : Request} {next : r.Answer → Program γ}
    (hp : Unread target t before p) (hw : w.store.Holds t fun _ => True)
    (h : p.Interleaved (.ask r next) w trace a b w') :
    ∃ (more : List (Request ⊕ Request)) (p₁ : Program α) (w₁ : World Memory)
      (rest : List (Request ⊕ Request)), trace = more ++ .inr r :: rest ∧
      Unread target t (before ++ (more ++ [.inr r])) p₁ ∧ w₁.store.Holds t (fun _ => True) ∧
      p₁.Interleaved (next (w₁.answer r).1) (w₁.answer r).2 rest a b w' := by
  obtain ⟨requests, p₁, w₁, rest, rfl, hadv, hrest⟩ := h.second_next
  have hkept := hadv.invariant hp.proposes
    (fun r _ => Contract.upholds_holds (fun _ _ _ _ => trivial) (fun _ _ => trivial)
      fun _ _ _ _ _ _ _ => trivial) hw
  refine ⟨requests.map .inl, p₁, w₁, rest, rfl, ⟨hkept.2, fun hno => ?_⟩, hkept.1, hrest⟩
  have hbefore : ∀ r, .inl r ∈ before → r.reads t.user t.id = false := fun r hr =>
    hno r (List.mem_append_left _ hr)
  refine (hadv.invariant (I := fun w => w.store.Holds t fun _ => True) (hp.unread hbefore)
    (fun r hr => ?_) hw).2
  have hunread : r.reads t.user t.id = false := by
    refine hno r (List.mem_append_right _ (List.mem_append_left _ ?_))
    exact List.mem_map_of_mem hr
  refine Contract.upholds_holds (fun _ _ _ hreads => ?_) (fun s hs hid => absurd hid hs)
    fun _ _ _ _ _ _ _ => trivial
  rw [hunread] at hreads
  exact Bool.noConfusion hreads

/-- The trace comes to a request that stores a row, after which the transaction
has a target that was set by hand, and its mark.  What is left of the edit
leaves both alone, and so does the application if it had not read the
transaction before. -/
def ComesToRow (target : HandTarget β) (t : Transaction) (x : β)
    (before trace : List (Request ⊕ Request)) (a : α) (b : γ) (w' : World Memory) : Prop :=
  ∃ (more : List (Request ⊕ Request)) (row : Transaction) (p : Program α) (q : Program γ)
    (w : World Memory) (rest : List (Request ⊕ Request)),
    trace = more ++ .inr (.call (.updateTransaction row)) :: rest ∧
    Unread target t (before ++ (more ++ [.inr (.call (.updateTransaction row))])) p ∧
    q.Meets (target.respects t.id) (fun _ => True) ∧
    w.store.Holds t (fun s => target.manual s = true ∧ target.value s = some x) ∧
    p.Interleaved q w rest a b w'

/-- How an edit goes on once it has made the row: it stores the row and, if
asked to, applies the rules to what is still open in it. -/
def Action.storeRow (user : String) (row : Transaction) (again : Bool) : Action Transaction := do
  call (.updateTransaction row)
  if again && !row.fullyManual then
    let _ ← applyToTransaction user row.id
  getTransaction user row.id

/-- An edit reads the transaction and the clock, and then it stores the row that
it has made of both. -/
theorem Action.updateTransaction_eq (user : String) (id : Id) (u : TransactionUpdate) :
    updateTransaction user id u = (do
      let old ← getTransaction user id
      let at_ ← now
      storeRow user { u.apply old with updatedAt := at_ } u.reapplies) := rfl

/-- **The edit stores its row**: the row has a target and its mark, and the edit
leaves both alone from there on. -/
theorem Unread.stores {row : Transaction} {x : β} (hid : row.id = t.id) (hu : row.user = t.user)
    (hx : target.manual row = true ∧ target.value row = some x) (hp : Unread target t before p)
    (hw : w.store.Holds t fun _ => True) {again : Bool} {r : Except Error Transaction}
    (h : p.Interleaved (ExceptT.run (Action.storeRow t.user row again)) w trace a r w') :
    ComesToRow target t x before trace a r w' := by
  obtain ⟨more, p₁, w₁, rest, rfl, hp₁, hw₁, h₁⟩ := hp.second_next hw h
  have hfound : (w₁.store.transaction? row.user row.id).isSome = true := by
    obtain ⟨s, hs, -⟩ := hw₁.find
    rw [hid, hu, hs]
    rfl
  rw [answer_updateTransaction hfound] at h₁
  have hread : (Action.getTransaction t.user row.id).Meets (target.respects t.id) fun _ => True :=
    (Action.getTransaction_meets t.user row.id).mono fun _ _ => trivial
  have hrest : (if again && !row.fullyManual then do
        let _ ← Action.applyToTransaction t.user row.id
        Action.getTransaction t.user row.id
      else Action.getTransaction t.user row.id).Meets (target.respects t.id) fun _ => True := by
    split
    · exact (Action.applyToTransaction_meets t.user row.id).bind fun _ _ => hread
    · exact hread
  exact ⟨more, row, p₁, _, _, rest, rfl, hp₁, Program.Meets.mono hrest fun _ _ => trivial,
    hw₁.putBack hid hu hx, h₁⟩

/-- An edit that sets a target by hand comes to store such a row. -/
theorem Unread.edits {u : TransactionUpdate} {x : β} (hx : target.given u = some x)
    (hp : Unread target t before p) (hw : w.store.Holds t fun _ => True)
    {r : Except Error Transaction}
    (h : p.Interleaved (ExceptT.run (Action.updateTransaction t.user t.id u)) w trace a r w') :
    ComesToRow target t x before trace a r w' := by
  rw [Action.updateTransaction_eq] at h
  obtain ⟨more₁, p₁, w₁, rest₁, rfl, hp₁, hw₁, h₁⟩ := hp.second_next hw h
  obtain ⟨old, hfind, hid, hu, -⟩ := hw₁.find
  rw [show (w₁.answer (.call (.getTransaction t.user t.id))).1 = .ok (some old) from
    congrArg Except.ok hfind] at h₁
  have hw₁ := hw₁.answer (r := .call (.getTransaction t.user t.id)) rfl fun _ _ _ _ _ _ => trivial
  obtain ⟨more₂, p₂, w₂, rest₂, rfl, hp₂, hw₂, h₂⟩ := hp₁.second_next hw₁ h₁
  have hw₂ := hw₂.answer (r := .now) rfl fun _ _ _ _ _ _ => trivial
  obtain ⟨row, hrow⟩ : ∃ row, { u.apply old with updatedAt := (w₂.answer .now).1 } = row := ⟨_, rfl⟩
  have h₂ : p₂.Interleaved (ExceptT.run (Action.storeRow t.user
      { u.apply old with updatedAt := (w₂.answer .now).1 } u.reapplies)) (w₂.answer .now).2 rest₂
      a r w' := h₂
  have hset := target.apply_given u old (w₂.answer .now).1 x hx
  have hid : row.id = t.id := hrow ▸ hid
  have hu : row.user = t.user := hrow ▸ hu
  rw [hrow] at h₂ hset
  obtain ⟨more₃, row, p₃, q, w₃, rest₃, rfl, hp₃, hq, hw₃, h₃⟩ := hp₂.stores hid hu hset hw₂ h₂
  refine ⟨more₁ ++ .inr (.call (.getTransaction t.user t.id)) :: (more₂ ++ .inr .now :: more₃), row,
    p₃, q, w₃, rest₃, ?_, ?_, hq, hw₃, h₃⟩
  · simp
  · simpa using hp₃

/-! ### Who comes last -/

/-- An application overtakes an edit in a target of a transaction: it reads the
transaction, the edit stores a row, and then the application gives the target
something.  Nothing in the stores prevents this: a row is read in one call and
written in another. -/
def Overtaken {β : Type} (target : Target β) (t : Transaction) (y : β)
    (trace : List (Request ⊕ Request)) : Prop :=
  ∃ read row write, [.inl read, .inr (.call (.updateTransaction row)), .inl write].Sublist trace ∧
    read.reads t.user t.id = true ∧ write.gives target t.user t.id = some y

/-- What a target may be in the end that was given a value by hand: that value,
or one that an application gave it which overtook the edit. -/
def HandTarget.MayEndAs (target : HandTarget β) (t : Transaction) (x : β)
    (trace : List (Request ⊕ Request)) (v : Option β) : Prop :=
  v = some x ∨ ∃ y, v = some y ∧ Overtaken target.toTarget t y trace

/-- **A target that is set by hand while rules are applied** has its mark in the
end, and the value it was given unless the edit was overtaken: then it may have
the value that the application gave it. -/
theorem HandTarget.outlives {u : TransactionUpdate} {x : β} (hx : target.given u = some x)
    {run : Action γ} (hrun : run.Applies) (hw : w.store.Holds t fun _ => True)
    {c : Except Error γ} {r : Except Error Transaction}
    (h : (ExceptT.run run).Interleaved (ExceptT.run (Action.updateTransaction t.user t.id u)) w
      trace c r w') :
    w'.store.Holds t fun s =>
      target.manual s = true ∧ target.MayEndAs t x trace (target.value s) := by
  have hmeets : ∀ sees, (ExceptT.run run).Meets (.proposals sees) fun _ => True := fun sees =>
    Program.Meets.mono (hrun.meets sees) fun _ _ => trivial
  have hunread : Unread target t [] (ExceptT.run run) := ⟨hmeets _, fun _ => hmeets _⟩
  obtain ⟨before, row, p, q, w₁, rest, rfl, hp, hq, hw₁, hrest⟩ := hunread.edits hx hw h
  rw [List.nil_append] at hp
  by_cases hread : ∃ read, .inl read ∈ before ∧ read.reads t.user t.id = true
  · -- What the application writes from now on comes after its reading and the row.
    obtain ⟨read, hbefore, hread⟩ := hread
    have hkept : w₁.store.Holds t fun s => target.manual s = true ∧ target.MayEndAs t x
        (before ++ .inr (.call (.updateTransaction row)) :: rest) (target.value s) :=
      hw₁.mono fun s hs => ⟨hs.1, .inl hs.2⟩
    refine (hrest.invariant hp.proposes hq (fun write hwrite => proposals_uphold fun y hy => ?_)
      (fun r _ => respects_upholds _ r) hkept).1
    refine .inr ⟨y, rfl, read, row, write, ?_, hread, hy⟩
    exact (List.singleton_sublist.2 hbefore).append
      (.cons_cons _ (List.singleton_sublist.2 hwrite))
  · -- The application cannot have read the transaction without its mark.
    have hno : ∀ r, .inl r ∈ before ++ [.inr (.call (.updateTransaction row))] →
        r.reads t.user t.id = false := by
      intro r hr
      rcases List.mem_append.1 hr with hr | hr
      · exact Bool.eq_false_iff.2 fun hreads => hread ⟨r, hr, hreads⟩
      · cases List.mem_singleton.1 hr
    have hkept := (hrest.invariant (hp.unread hno) hq (fun r _ => respects_upholds (· = some x) r)
      (fun r _ => respects_upholds (· = some x) r) hw₁).1
    exact hkept.mono fun s hs => ⟨hs.1, .inl hs.2⟩

/-- **What is set by hand while rules are applied stays, unless the edit is
overtaken.** However one application, to one transaction or to many, is
interleaved with one edit that sets the category or the merchant of a
transaction by hand: in the end the transaction has the mark, and what it was
given by hand.  It can only have something else if the application had read the
transaction when the edit stored its row, and wrote that after it. -/
theorem hand_set_outlives_unless_overtaken {w w' : World Memory} (h : Reachable w)
    {t : Transaction} (ht : t ∈ w.store.transactions) {α : Type} {run : Action α}
    (hrun : run.Applies) (u : TransactionUpdate) {trace : List (Request ⊕ Request)}
    {c : Except Error α} {r : Except Error Transaction}
    (hi : (ExceptT.run run).Interleaved (ExceptT.run (Action.updateTransaction t.user t.id u)) w
      trace c r w') :
    (∀ category, u.category = some category → u.releaseCategory = false →
      ∃ t', w'.store.transaction? t.user t.id = some t' ∧ t'.categoryManual = true ∧
        (t'.category = some category ∨
          ∃ other, t'.category = some other ∧ Overtaken Target.category t other trace)) ∧
    (∀ merchant, normalizeMerchant u.merchant = some merchant → u.releaseMerchant = false →
      ∃ t', w'.store.transaction? t.user t.id = some t' ∧ t'.merchantManual = true ∧
        (t'.merchant = some merchant ∨
          ∃ other, t'.merchant = some other ∧ Overtaken Target.merchant t other trace)) := by
  have hw : w.store.Holds t fun _ => True := ⟨h.distinct, t, ht, rfl, rfl, trivial⟩
  constructor
  · intro category hcategory hkeep
    have hgiven : HandTarget.category.given u = some category := by
      show (if u.releaseCategory then none else u.category) = some category
      rw [hkeep, hcategory]
      rfl
    obtain ⟨t', hfind, -, -, hset⟩ := (HandTarget.outlives hgiven hrun hw hi).find
    exact ⟨t', hfind, hset⟩
  · intro merchant hmerchant hkeep
    have hgiven : HandTarget.merchant.given u = some merchant := by
      show (if u.releaseMerchant then none else normalizeMerchant u.merchant) = some merchant
      rw [hkeep, hmerchant]
      rfl
    obtain ⟨t', hfind, -, -, hset⟩ := (HandTarget.outlives hgiven hrun hw hi).find
    exact ⟨t', hfind, hset⟩

namespace Sample

/-- An edit that sets both targets by hand. -/
def byHand : TransactionUpdate := { category := some 7, merchant := some " Corner " }

/-- The edit of the cake. -/
def cakeByHand : Action Transaction := Action.updateTransaction "ana" ⟨2#128⟩ byHand

/-- A bulk run has looked up the rules but no transaction when the edit stores
its row. -/
def inTime : Option (List (Request ⊕ Request) ×
    (Except Error BulkSummary × Except Error Transaction) × World Memory) :=
  Program.weave ([false] ++ List.replicate 3 true ++ List.replicate 7 false ++ [true])
    (ExceptT.run (Action.applyToExisting "ana" none false)) (ExceptT.run cakeByHand) free

/-- An application has read the cake, the edit is made, and then the application
goes on. -/
def tooLate : Option (List (Request ⊕ Request) ×
    (Except Error Outcome × Except Error Transaction) × World Memory) :=
  Program.weave ([false] ++ List.replicate 4 true ++ List.replicate 6 false)
    (ExceptT.run (Action.applyToTransaction "ana" ⟨2#128⟩)) (ExceptT.run cakeByHand) free

/-- The cake is in the store. -/
theorem cake_mem_free : cake ∈ free.store.transactions := by decide +kernel

/-- Whether the first program never writes a target of the cake. -/
def spares {β : Type} (target : Target β) (trace : List (Request ⊕ Request)) : Bool :=
  trace.all fun
    | .inl request => (request.gives target "ana" ⟨2#128⟩).isNone
    | .inr _ => true

/-- A program that never writes a target overtakes no edit of it. -/
theorem not_overtaken_of_spares {β : Type} {target : Target β} {trace : List (Request ⊕ Request)}
    (h : spares target trace = true) (y : β) : ¬Overtaken target cake y trace := by
  rintro ⟨read, row, write, hsub, -, hgives⟩
  have hnone := List.all_eq_true.1 h (.inl write) (hsub.subset (by simp))
  exact absurd ((Option.isNone_iff_eq_none.1 hnone).symm.trans hgives) nofun

end Sample

/-- A bulk run that comes to read the cake after it was edited by hand leaves
it, though it had listed the rules before. -/
theorem cake_set_by_hand_in_time :
    Reachable Sample.free ∧ Sample.cake ∈ Sample.free.store.transactions ∧
      ∃ trace c r w', (ExceptT.run (Action.applyToExisting "ana" none false)).Interleaved
        (ExceptT.run Sample.cakeByHand) Sample.free trace c r w' ∧
        (∃ t', w'.store.transaction? "ana" ⟨2#128⟩ = some t' ∧ t'.categoryManual = true ∧
          t'.category = some 7) ∧
        ∃ t', w'.store.transaction? "ana" ⟨2#128⟩ = some t' ∧ t'.merchantManual = true ∧
          t'.merchant = some "Corner" := by
  have hspares : Sample.inTime.map (fun x => Sample.spares Target.category x.1 &&
      Sample.spares Target.merchant x.1) = some true := by decide +kernel
  obtain ⟨⟨trace, ⟨c, r⟩, w'⟩, hx, hspares⟩ := Option.map_eq_some_iff.1 hspares
  obtain ⟨hcategory, hmerchant⟩ := Bool.and_eq_true_iff.1 hspares
  have hi := Program.interleaved_of_weave hx
  have hset := hand_set_outlives_unless_overtaken Sample.reachable_free Sample.cake_mem_free
    (.bulk "ana" none) Sample.byHand hi
  refine ⟨Sample.reachable_free, Sample.cake_mem_free, trace, c, r, w', hi, ?_, ?_⟩
  · obtain ⟨t', hfind, hmark, hc | ⟨other, -, hover⟩⟩ := hset.1 7 rfl rfl
    · exact ⟨t', hfind, hmark, hc⟩
    · exact absurd hover (Sample.not_overtaken_of_spares hcategory other)
  · obtain ⟨t', hfind, hmark, hc | ⟨other, -, hover⟩⟩ := hset.2 "Corner" (by decide +kernel) rfl
    · exact ⟨t', hfind, hmark, hc⟩
    · exact absurd hover (Sample.not_overtaken_of_spares hmerchant other)

/-- Not every interleaving leaves the category that was set by hand: here the
application had read the cake before. -/
theorem hand_set_category_lost :
    ¬∀ (w w' : World Memory) (t : Transaction) (α : Type) (run : Action α) (u : TransactionUpdate)
      (category : Int64) (trace : List (Request ⊕ Request)) (c : Except Error α)
      (edited : Transaction),
      Reachable w → t ∈ w.store.transactions → run.Applies → u.category = some category →
      u.releaseCategory = false →
      (ExceptT.run run).Interleaved (ExceptT.run (Action.updateTransaction t.user t.id u)) w
        trace c (.ok edited) w' →
      ∃ t', w'.store.transaction? t.user t.id = some t' ∧ t'.category = some category ∧
        t'.categoryManual = true := by
  intro h
  have hlost : Sample.tooLate.map (fun x => (x.2.1.2.isOk,
      (x.2.2.store.transaction? "ana" ⟨2#128⟩).map (·.category))) = some (true, some (some 9)) := by
    decide +kernel
  obtain ⟨⟨trace, ⟨c, r⟩, w'⟩, hx, hlost⟩ := Option.map_eq_some_iff.1 hlost
  obtain ⟨hok, hcategory⟩ := Prod.mk.inj hlost
  cases r with
  | error e => exact Bool.noConfusion hok
  | ok edited =>
    obtain ⟨t', hfind, hkept, -⟩ := h _ w' _ _ _ Sample.byHand 7 trace c edited
      Sample.reachable_free Sample.cake_mem_free (.one "ana" ⟨2#128⟩) rfl rfl
      (Program.interleaved_of_weave hx)
    have hfind : w'.store.transaction? "ana" ⟨2#128⟩ = some t' := hfind
    dsimp only at hcategory
    rw [hfind, Option.map_some, hkept] at hcategory
    exact absurd hcategory (by decide)

end LedgerRules
