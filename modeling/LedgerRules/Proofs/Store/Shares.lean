/-
# The records of one user

The records of all users lie in one store.  A call that is made for a user looks
only at the records of that user, so two stores that hold the same of them give
the same answer and hold the same of them afterwards (`answer_sameOf`); of the
records of others it changes none (`Wrote.sameOf_other`).

Two kinds of calls look further.  An insertion asks whether any record has the
identifier, and applications are counted for whatever rule has it.  A call for a
user brings identifiers of that user there, and those are no others'
(`Call.IsFor`).
-/

import LedgerRules.Proofs.Store.Credits
import LedgerRules.Proofs.Store.Writes

namespace LedgerRules

/-! ### Changing the first of several, and keeping some -/

section ModifyFirst

variable {α : Type} {test keep : α → Bool} {change : α → α} {l : List α}

/-- The first of all elements is the first of those that are kept. -/
theorem filter_modifyFirst (htest : ∀ a ∈ l, test a = true → keep a = true)
    (hchange : ∀ a ∈ l, test a = true → keep (change a) = true) :
    (modifyFirst test change l).filter keep = modifyFirst test change (l.filter keep) := by
  induction l with
  | nil => rfl
  | cons a l ih =>
    obtain ⟨hta, htl⟩ := List.forall_mem_cons.1 htest
    obtain ⟨hca, hcl⟩ := List.forall_mem_cons.1 hchange
    rw [modifyFirst]
    split
    · rename_i h
      rw [List.filter_cons_of_pos (hca h), List.filter_cons_of_pos (hta h)]
      exact (if_pos h).symm
    · rename_i h
      by_cases hk : keep a = true
      · rw [List.filter_cons_of_pos hk, List.filter_cons_of_pos hk, ih htl hcl]
        exact (if_neg h).symm
      · rw [List.filter_cons_of_neg hk, List.filter_cons_of_neg hk]
        exact ih htl hcl

/-- A change among the others leaves those that are kept. -/
theorem filter_modifyFirst_of_not (htest : ∀ a ∈ l, test a = true → keep a = false)
    (hchange : ∀ a ∈ l, test a = true → keep (change a) = false) :
    (modifyFirst test change l).filter keep = l.filter keep := by
  induction l with
  | nil => rfl
  | cons a l ih =>
    obtain ⟨hta, htl⟩ := List.forall_mem_cons.1 htest
    obtain ⟨hca, hcl⟩ := List.forall_mem_cons.1 hchange
    rw [modifyFirst]
    split
    · rename_i h
      rw [List.filter_cons_of_neg (by simp [hca h]), List.filter_cons_of_neg (by simp [hta h])]
    · rw [List.filter_cons, List.filter_cons, ih htl hcl]

end ModifyFirst

section Both

variable {α : Type} (p q : α → Bool) (l : List α)

/-- What has two properties is found among what has one of them. -/
theorem find?_and : l.find? (fun a => p a && q a) = (l.filter q).find? p := by
  rw [List.find?_filter]
  refine congrArg (List.find? · l) (funext fun a => ?_)
  cases p a <;> cases q a <;> rfl

/-- Of two tests one can be made after the other. -/
theorem filter_and : l.filter (fun a => p a && q a) = (l.filter p).filter q := by
  rw [List.filter_filter]
  exact congrArg (List.filter · l) (funext fun a => Bool.and_comm _ _)

/-- Counting what passes two tests is counting one test among what passes the
other. -/
theorem countP_and : l.countP (fun a => p a && q a) = (l.filter p).countP q := by
  rw [List.countP_filter]
  exact congrArg (List.countP · l) (funext fun a => Bool.and_comm _ _)

/-- Whether something passes two tests is asked among what passes one of them. -/
theorem any_and : l.any (fun a => p a && q a) = (l.filter q).any p := by
  rw [List.any_filter]
  exact congrArg l.any (funext fun a => Bool.and_comm _ _)

variable {p q l}

/-- A test that only elements with a property pass is made among those. -/
theorem any_eq_any_filter (h : ∀ a ∈ l, q a = true → p a = true) :
    l.any q = (l.filter p).any q := by
  rw [List.any_filter, Bool.eq_iff_iff, List.any_eq_true, List.any_eq_true]
  refine exists_congr fun a => and_congr_right fun ha => ?_
  rw [Bool.and_eq_true]
  exact ⟨fun hq => ⟨h a ha hq, hq⟩, And.right⟩

end Both

/-- The call is made for a user: the user it names, and the records it brings,
are that one's, applications are counted for rules of that user, and a record
that is inserted has a fresh identifier. -/
def Call.IsFor (user : String) (own fresh : Id → Prop) : Call → Prop
  | .insertAccount a => a.user = user
  | .listAccounts u => u = user
  | .getAccount u _ => u = user
  | .accountView u _ => u = user
  | .insertTransaction t => t.user = user ∧ fresh t.id
  | .updateTransaction t => t.user = user
  | .getTransaction u _ => u = user
  | .listTransactions u _ _ => u = user
  | .eligible u _ _ => u = user
  | .assign u _ _ _ _ => u = user
  | .insertRule r => r.user = user ∧ fresh r.id
  | .updateRule r => r.user = user
  | .deleteRule u _ => u = user
  | .getRule u _ => u = user
  | .listRules u => u = user
  | .activeRules u => u = user
  | .maxPriority u => u = user
  | .recordApplications id _ _ => own id

namespace Memory

variable {user other : String} {own fresh : Id → Prop} {m m' m'' : Memory} {c : Call} {id : Id}

/-- Two stores hold the same records of a user, in the same order.  What others
have in them may differ in any way. -/
structure SameOf (user : String) (m m' : Memory) : Prop where
  accounts : m.accounts.filter (·.user == user) = m'.accounts.filter (·.user == user)
  transactions : m.transactions.filter (·.user == user) = m'.transactions.filter (·.user == user)
  rules : m.rules.filter (·.user == user) = m'.rules.filter (·.user == user)

/-- Every store holds the same records of a user as it does itself. -/
theorem SameOf.refl (user : String) (m : Memory) : SameOf user m m := ⟨rfl, rfl, rfl⟩

/-- Stores that agree with one store on a user's records agree with each other
on them. -/
theorem SameOf.trans (h : SameOf user m m') (h' : SameOf user m' m'') : SameOf user m m'' :=
  ⟨h.accounts.trans h'.accounts, h.transactions.trans h'.transactions, h.rules.trans h'.rules⟩

/-- The identifiers that a user may bring to a store are not those of others'
records.  Without this an insertion could be refused because of a record of
someone else, and that would show. -/
structure Reserves (user : String) (own fresh : Id → Prop) (m : Memory) : Prop where
  rule : ∀ r ∈ m.rules, own r.id → r.user = user
  freshRule : ∀ r ∈ m.rules, fresh r.id → r.user = user
  freshTransaction : ∀ t ∈ m.transactions, fresh t.id → t.user = user

/-! ### What a user sees -/

namespace SameOf

/-- An account of the user is found in both stores, and is the same one. -/
theorem account? (h : SameOf user m m') (id : Id) : m.account? user id = m'.account? user id := by
  unfold Memory.account?
  rw [find?_and, find?_and, h.accounts]

/-- A transaction of the user is found in both stores, and is the same one. -/
theorem transaction? (h : SameOf user m m') (id : Id) :
    m.transaction? user id = m'.transaction? user id := by
  unfold Memory.transaction?
  rw [find?_and, find?_and, h.transactions]

/-- A rule of the user is found in both stores, and is the same one. -/
theorem rule? (h : SameOf user m m') (id : Id) : m.rule? user id = m'.rule? user id := by
  unfold Memory.rule?
  rw [find?_and, find?_and, h.rules]

/-- The rules of the user are listed alike. -/
theorem rulesOf (h : SameOf user m m') : m.rulesOf user = m'.rulesOf user := by
  unfold Memory.rulesOf
  rw [h.rules]

/-- And so are the active ones among them. -/
theorem activeRulesOf (h : SameOf user m m') : m.activeRulesOf user = m'.activeRulesOf user := by
  unfold Memory.activeRulesOf
  rw [filter_and, filter_and, h.rules]

/-- The transactions of the user are listed alike, with any account and any
limit. -/
theorem transactionsOf (h : SameOf user m m') (account : Option Id) (limit : Option Nat) :
    m.transactionsOf user account limit = m'.transactionsOf user account limit := by
  unfold Memory.transactionsOf
  rw [filter_and, filter_and, h.transactions]

/-- A bulk run finds the same transactions of the user in both stores. -/
theorem eligibleOf (h : SameOf user m m') (ids : Option (List Id)) (includeManual : Bool) :
    m.eligibleOf user ids includeManual = m'.eligibleOf user ids includeManual := by
  unfold Memory.eligibleOf
  rw [filter_and, filter_and, filter_and, filter_and, h.transactions]

/-- A grouped write reaches equally many transactions of the user in both
stores. -/
theorem countP_reaches (h : SameOf user m m') (ids : List Id) :
    m.transactions.countP (reaches user ids) = m'.transactions.countP (reaches user ids) := by
  unfold reaches
  rw [countP_and, countP_and, h.transactions]

end SameOf

/-! ### What a call for a user leaves of that user's records -/

/-- A grouped write changes the transactions of its user: what it makes of any
user's share is what it would make of that share alone. -/
theorem filter_assigned (user other : String) (category : Option Int64) (merchant : Option String)
    (ids : List Id) (now : Instant) (l : List Transaction) :
    (l.map fun t => if reaches user ids t then t.assign category merchant now else t).filter
        (·.user == other) =
      (l.filter (·.user == other)).map fun t =>
        if reaches user ids t then t.assign category merchant now else t := by
  rw [List.filter_map]
  refine congrArg (List.map _) (congrArg (List.filter · l) (funext fun t => ?_))
  show ((if reaches user ids t then t.assign category merchant now else t).user == other) = _
  split <;> rfl

/-- A grouped write for the user answers alike in both stores and keeps them
alike. -/
theorem SameOf.assign (h : SameOf user m m') (hf : m.failing = m'.failing) (category : Option Int64)
    (merchant : Option String) (ids : List Id) (now : Instant) :
    (m.assign user category merchant ids now).1 = (m'.assign user category merchant ids now).1 ∧
      SameOf user (m.assign user category merchant ids now).2
        (m'.assign user category merchant ids now).2 := by
  by_cases hfails : (category, merchant) ∈ m.failing
  · rw [assign_of_failing hfails, assign_of_failing (hf ▸ hfails)]
    exact ⟨rfl, h.accounts, h.transactions, h.rules⟩
  · rw [assign_of_not_failing hfails, assign_of_not_failing (hf ▸ hfails), h.countP_reaches]
    refine ⟨rfl, h.accounts, ?_, h.rules⟩
    rw [filter_assigned, filter_assigned, h.transactions]

/-- A transaction with a fresh identifier is accepted by both stores or by
neither. -/
theorem SameOf.insertTransaction (h : SameOf user m m') {t : Transaction}
    (hid : fresh t.id) (hm : Reserves user own fresh m) (hm' : Reserves user own fresh m') :
    (m.answer (.insertTransaction t)).1 = (m'.answer (.insertTransaction t)).1 ∧
      SameOf user (m.answer (.insertTransaction t)).2 (m'.answer (.insertTransaction t)).2 := by
  have hown : ∀ {n : Memory}, Reserves user own fresh n →
      n.transactions.any (·.id == t.id) =
        (n.transactions.filter (·.user == user)).any (·.id == t.id) := by
    refine fun hn => any_eq_any_filter fun s hs he => ?_
    rw [beq_iff_eq] at he ⊢
    exact hn.freshTransaction s hs (he ▸ hid)
  dsimp only [Memory.answer]
  rw [hown hm, hown hm', h.transactions]
  split
  · exact ⟨rfl, h⟩
  · refine ⟨rfl, h.accounts, ?_, h.rules⟩
    rw [List.filter_append, List.filter_append, h.transactions]

/-- A transaction of the user that is put back is found in both stores or in
neither. -/
theorem SameOf.updateTransaction (h : SameOf user m m') {t : Transaction} (ht : t.user = user) :
    (m.answer (.updateTransaction t)).1 = (m'.answer (.updateTransaction t)).1 ∧
      SameOf user (m.answer (.updateTransaction t)).2 (m'.answer (.updateTransaction t)).2 := by
  subst ht
  have hin : ∀ {n : Memory}, (modifyFirst (fun x => x.id == t.id && x.user == t.user) (fun _ => t)
      n.transactions).filter (·.user == t.user) =
        modifyFirst (fun x => x.id == t.id && x.user == t.user) (fun _ => t)
          (n.transactions.filter (·.user == t.user)) := by
    refine filter_modifyFirst (fun s _ hs => ?_) fun _ _ _ => beq_self_eq_true _
    rw [Bool.and_eq_true] at hs
    exact hs.2
  dsimp only [Memory.answer]
  rw [h.transaction?]
  split
  · exact ⟨rfl, h⟩
  · refine ⟨rfl, h.accounts, ?_, h.rules⟩
    rw [hin, hin, h.transactions]

/-- A rule with a fresh identifier is accepted by both stores or by neither. -/
theorem SameOf.insertRule (h : SameOf user m m') {r : Rule} (hid : fresh r.id)
    (hm : Reserves user own fresh m) (hm' : Reserves user own fresh m') :
    (m.answer (.insertRule r)).1 = (m'.answer (.insertRule r)).1 ∧
      SameOf user (m.answer (.insertRule r)).2 (m'.answer (.insertRule r)).2 := by
  have hown : ∀ {n : Memory}, Reserves user own fresh n →
      n.rules.any (·.id == r.id) = (n.rules.filter (·.user == user)).any (·.id == r.id) := by
    refine fun hn => any_eq_any_filter fun s hs he => ?_
    rw [beq_iff_eq] at he ⊢
    exact hn.freshRule s hs (he ▸ hid)
  dsimp only [Memory.answer]
  rw [hown hm, hown hm', h.rules]
  split
  · exact ⟨rfl, h⟩
  · refine ⟨rfl, h.accounts, h.transactions, ?_⟩
    rw [List.filter_append, List.filter_append, h.rules]

/-- A rule of the user that is changed is found in both stores or in neither. -/
theorem SameOf.updateRule (h : SameOf user m m') {r : Rule} (hr : r.user = user) :
    (m.answer (.updateRule r)).1 = (m'.answer (.updateRule r)).1 ∧
      SameOf user (m.answer (.updateRule r)).2 (m'.answer (.updateRule r)).2 := by
  subst hr
  have hin : ∀ {n : Memory}, (modifyFirst (fun x => x.id == r.id && x.user == r.user) (·.replace r)
      n.rules).filter (·.user == r.user) =
        modifyFirst (fun x => x.id == r.id && x.user == r.user) (·.replace r)
          (n.rules.filter (·.user == r.user)) := by
    refine filter_modifyFirst (fun s _ hs => ?_) fun _ _ _ => beq_self_eq_true _
    rw [Bool.and_eq_true] at hs
    exact hs.2
  dsimp only [Memory.answer]
  rw [h.rule?]
  split
  · exact ⟨rfl, h⟩
  · refine ⟨rfl, h.accounts, h.transactions, ?_⟩
    rw [hin, hin, h.rules]

/-- A rule of the user that is deleted was there in both stores or in neither. -/
theorem SameOf.deleteRule (h : SameOf user m m') (id : Id) :
    (m.answer (.deleteRule user id)).1 = (m'.answer (.deleteRule user id)).1 ∧
      SameOf user (m.answer (.deleteRule user id)).2 (m'.answer (.deleteRule user id)).2 := by
  dsimp only [Memory.answer]
  rw [any_and, any_and, h.rules]
  refine ⟨rfl, h.accounts, h.transactions, ?_⟩
  show (m.rules.filter _).filter _ = (m'.rules.filter _).filter _
  rw [List.filter_comm, h.rules, List.filter_comm]

/-- Applications that are counted for a rule of the user are counted in both
stores.  The count goes by the identifier alone, so the rule must be known to be
the user's. -/
theorem SameOf.count (h : SameOf user m m') {id : Id} (hid : own id)
    (hm : Reserves user own fresh m) (hm' : Reserves user own fresh m') (times : Nat)
    (now : Instant) : SameOf user (m.count id times now) (m'.count id times now) := by
  have hin : ∀ {n : Memory}, Reserves user own fresh n →
      (modifyFirst (·.id == id) (·.applied times now) n.rules).filter (·.user == user) =
        modifyFirst (·.id == id) (·.applied times now) (n.rules.filter (·.user == user)) := by
    intro n hn
    have htest : ∀ r ∈ n.rules, (r.id == id) = true → (r.user == user) = true := by
      intro r hr he
      rw [beq_iff_eq] at he ⊢
      exact hn.rule r hr (he ▸ hid)
    exact filter_modifyFirst htest htest
  unfold Memory.count
  split
  · exact h
  · refine ⟨h.accounts, h.transactions, ?_⟩
    rw [hin hm, hin hm', h.rules]

/-- **What a call for a user answers, and what it leaves of that user's records,
depends on those alone.** -/
theorem answer_sameOf (hc : c.IsFor user own fresh) (h : SameOf user m m')
    (hf : m.failing = m'.failing) (hm : Reserves user own fresh m)
    (hm' : Reserves user own fresh m') :
    (m.answer c).1 = (m'.answer c).1 ∧ SameOf user (m.answer c).2 (m'.answer c).2 := by
  cases c with
  | insertAccount a =>
    refine ⟨rfl, ?_, h.transactions, h.rules⟩
    show (m.accounts ++ [a]).filter _ = (m'.accounts ++ [a]).filter _
    rw [List.filter_append, List.filter_append, h.accounts]
  | listAccounts u =>
    obtain rfl : u = user := hc
    exact ⟨congrArg (fun l => Except.ok (List.mergeSort l Account.precedes)) h.accounts, h⟩
  | getAccount u id =>
    obtain rfl : u = user := hc
    exact ⟨congrArg Except.ok (h.account? id), h⟩
  | accountView u id =>
    obtain rfl : u = user := hc
    exact ⟨congrArg (fun a => Except.ok (Option.map Account.view a)) (h.account? id), h⟩
  | insertTransaction t => exact h.insertTransaction hc.2 hm hm'
  | updateTransaction t => exact h.updateTransaction hc
  | getTransaction u id =>
    obtain rfl : u = user := hc
    exact ⟨congrArg Except.ok (h.transaction? id), h⟩
  | listTransactions u account limit =>
    obtain rfl : u = user := hc
    exact ⟨congrArg Except.ok (h.transactionsOf account limit), h⟩
  | eligible u ids includeManual =>
    obtain rfl : u = user := hc
    exact ⟨congrArg Except.ok (h.eligibleOf ids includeManual), h⟩
  | assign u category merchant ids now =>
    obtain rfl : u = user := hc
    exact h.assign hf category merchant ids now
  | insertRule r => exact h.insertRule hc.2 hm hm'
  | updateRule r => exact h.updateRule hc
  | deleteRule u id =>
    obtain rfl : u = user := hc
    exact h.deleteRule id
  | getRule u id =>
    obtain rfl : u = user := hc
    exact ⟨congrArg Except.ok (h.rule? id), h⟩
  | listRules u =>
    obtain rfl : u = user := hc
    exact ⟨congrArg (fun l => Except.ok (Listing.mk l [])) h.rulesOf, h⟩
  | activeRules u =>
    obtain rfl : u = user := hc
    exact ⟨congrArg (fun l => Except.ok (Listing.mk l [])) h.activeRulesOf, h⟩
  | maxPriority u =>
    obtain rfl : u = user := hc
    exact ⟨congrArg (fun l => Except.ok (maxPriority l)) h.rules, h⟩
  | recordApplications id times now => exact ⟨rfl, h.count hc hm hm' times now⟩

/-! ### What it leaves of the records of others -/

/-- **A call for a user changes no record of another.** Only the counts of rules
are kept without asking for the user, so their identifiers have to be the
user's. -/
theorem Wrote.sameOf_other {ok : Bool} (h : m.Wrote c ok m') (hc : c.IsFor user own fresh)
    (hne : other ≠ user) (hown : ∀ r ∈ m.rules, own r.id → r.user = user) :
    SameOf other m' m := by
  have hno : ∀ {name : String}, name = user → (name == other) = false := by
    rintro _ rfl
    exact beq_false_of_ne hne.symm
  cases h with
  | read | refused => exact .refl other m
  | accountAdded a => exact ⟨filter_concat_of_neg (hno hc), rfl, rfl⟩
  | transactionAdded => exact ⟨rfl, filter_concat_of_neg (hno hc.1), rfl⟩
  | transactionReplaced =>
    refine ⟨rfl, filter_modifyFirst_of_not (fun s _ hs => ?_) fun _ _ _ => hno hc, rfl⟩
    exact hno ((Id.found_iff.1 hs).2.trans hc)
  | groupRejected => exact ⟨rfl, rfl, rfl⟩
  | @groupAssigned u category merchant ids now =>
    obtain rfl : u = user := hc
    refine ⟨rfl, ?_, rfl⟩
    rw [filter_assigned]
    refine (List.map_congr_left fun t ht => ?_).trans (List.map_id _)
    have hu : t.user = other := by simpa using List.of_mem_filter ht
    exact if_neg fun hr => hne (hu.symm.trans (reaches_iff.1 hr).1)
  | ruleAdded => exact ⟨rfl, rfl, filter_concat_of_neg (hno hc.1)⟩
  | ruleReplaced =>
    refine ⟨rfl, rfl, filter_modifyFirst_of_not (fun s _ hs => ?_) fun _ _ _ => hno hc⟩
    exact hno ((Id.found_iff.1 hs).2.trans hc)
  | rulesDeleted u id =>
    obtain rfl : u = user := hc
    refine ⟨rfl, rfl, filter_filter_of_imp fun r hr => ?_⟩
    have hkept : r.user ≠ u := fun hu => hne ((beq_iff_eq.1 hr).symm.trans hu)
    rw [beq_false_of_ne hkept, Bool.and_false, Bool.not_false]
  | ruleCounted id count now =>
    have htest : ∀ r ∈ m.rules, (r.id == id) = true → (r.user == other) = false := by
      intro r hr he
      exact hno (hown r hr (by rwa [beq_iff_eq.1 he]))
    unfold Memory.count
    split
    · exact .refl other m
    · exact ⟨rfl, rfl, filter_modifyFirst_of_not htest htest⟩

/-- Calls keep the identifiers of rules distinct: `insert_rule` refuses one that
is there. -/
theorem Wrote.distinctRules {ok : Bool} (h : m.Wrote c ok m') (hd : m.DistinctRules) :
    m'.DistinctRules := by
  cases h with
  | ruleAdded hnew => exact nodup_map_concat hd hnew
  | ruleReplaced =>
    show (List.map _ _).Nodup
    rwa [map_id_replace]
  | rulesDeleted => exact hd.sublist (List.filter_sublist.map _)
  | ruleCounted id count now =>
    have hsame := (m.sameButUsage_count id count now).rules
    show (List.map _ _).Nodup
    rwa [map_eq_of_forall₂ (fun r r' h => by rw [h]) hsame]
  | _ => exact hd

end Memory
end LedgerRules
