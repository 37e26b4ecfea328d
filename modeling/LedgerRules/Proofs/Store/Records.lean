/-
# Records in a store

What calls do to the records of a `Memory`.  An insertion puts a record last, a
change replaces one record in its place, and a grouped write or a count of
applications leaves everything else as it was.
-/

import LedgerRules.Proofs.Lists
import LedgerRules.Store.Memory
import Mathlib.Data.List.Nodup

namespace LedgerRules

/-! ### Changing the first of several -/

section ModifyFirst

variable {α : Type} {test : α → Bool} {change : α → α} {R : α → α → Prop}

/-- The record that is changed is the one that a search finds, so a relation
between before and after has to be shown for that record only. -/
theorem forall₂_modifyFirst (hR : ∀ a, R a a) {l : List α}
    (h : ∀ a, l.find? test = some a → R a (change a)) :
    List.Forall₂ R l (modifyFirst test change l) := by
  induction l with
  | nil => exact .nil
  | cons a l ih =>
    unfold modifyFirst
    split
    · rename_i ha
      exact .cons (h a (List.find?_cons_of_pos ha)) (List.forall₂_same.2 fun b _ => hR b)
    · rename_i ha
      exact .cons (hR a) (ih fun b hb => h b (by rwa [List.find?_cons_of_neg ha]))

/-- The record that was changed is found in its place. -/
theorem find?_modifyFirst {a : α} {l : List α} (h : l.find? test = some a)
    (ha : test (change a) = true) : (modifyFirst test change l).find? test = some (change a) := by
  induction l with
  | nil => exact absurd h nofun
  | cons b l ih =>
    unfold modifyFirst
    split
    · rename_i hb
      obtain rfl := Option.some.inj ((List.find?_cons_of_pos hb).symm.trans h)
      exact List.find?_cons_of_pos ha
    · rename_i hb
      rw [List.find?_cons_of_neg hb] at h ⊢
      exact ih h

/-- A change that leaves a field alone leaves the list of its values alone, and
with it all that is said about them, such as that they are distinct. -/
theorem map_modifyFirst {β : Type} {f : α → β} (h : ∀ a, test a = true → f (change a) = f a)
    (l : List α) : (modifyFirst test change l).map f = l.map f := by
  induction l with
  | nil => rfl
  | cons a l ih =>
    unfold modifyFirst
    split
    · rename_i ha
      rw [List.map_cons, List.map_cons, h a ha]
    · rw [List.map_cons, List.map_cons, ih]

/-- The first of at most one is every one: where a key is distinct, changing the
first record with it is changing all of them. -/
theorem modifyFirst_eq_map {κ : Type} (change : α → α) {key : α → κ} {k : κ}
    (htest : ∀ a, test a = true → key a = k) {l : List α} (hd : (l.map key).Nodup) :
    modifyFirst test change l = l.map fun a => if test a then change a else a := by
  induction l with
  | nil => rfl
  | cons a l ih =>
    obtain ⟨ha, hl⟩ := List.nodup_cons.1 hd
    rw [modifyFirst, List.map_cons]
    by_cases hfound : test a = true
    · have hrest : l.map (fun a => if test a then change a else a) = l := by
        refine (List.map_congr_left fun b hb => if_neg fun hb' => ha ?_).trans (List.map_id l)
        rw [htest a hfound, ← htest b hb']
        exact List.mem_map_of_mem hb
      rw [if_pos hfound, if_pos hfound, hrest]
    · rw [if_neg hfound, if_neg hfound, ih hl]

end ModifyFirst

/-- A search for an identifier and a user finds what has both. -/
theorem Id.found_iff {id id' : Id} {user user' : String} :
    (id == id' && user == user') = true ↔ id = id' ∧ user = user' := by
  rw [Bool.and_eq_true, beq_iff_eq, beq_iff_eq]

/-! ### Rules and how often they were applied -/

/-- Two rules differ at most in how often and when they were applied.  Usage is
what may change behind the back of whoever read the rule. -/
def Rule.SameButUsage (r r' : Rule) : Prop :=
  r' = { r with timesApplied := r'.timesApplied, lastAppliedAt := r'.lastAppliedAt }

/-- A rule is the same as itself, usage included. -/
theorem Rule.SameButUsage.refl (r : Rule) : r.SameButUsage r := rfl

/-- Two rules that differ in usage from a third differ in no more from each
other. -/
theorem Rule.SameButUsage.trans {a b c : Rule} (h₁ : a.SameButUsage b) (h₂ : b.SameButUsage c) :
    a.SameButUsage c := by
  unfold Rule.SameButUsage at *
  rw [h₂, h₁]

/-- Counting applications changes the usage of a rule and nothing else. -/
theorem Rule.sameButUsage_applied (r : Rule) (count : Nat) (now : Instant) :
    r.SameButUsage (r.applied count now) := rfl

namespace Memory

variable {m m' : Memory} {user : String} {id : Id}

/-- A transaction that is put back keeps its identifier. -/
theorem map_id_putBack (t : Transaction) (l : List Transaction) :
    (modifyFirst (fun s => s.id == t.id && s.user == t.user) (fun _ => t) l).map (·.id) =
      l.map (·.id) := by
  refine map_modifyFirst (fun s hs => ?_) l
  exact (Id.found_iff.1 hs).1.symm

/-- So does a rule that is replaced. -/
theorem map_id_replace (r : Rule) (l : List Rule) :
    (modifyFirst (fun s => s.id == r.id && s.user == r.user) (·.replace r) l).map (·.id) =
      l.map (·.id) := by
  refine map_modifyFirst (fun s hs => ?_) l
  exact (Id.found_iff.1 hs).1.symm

/-- A store whose transactions all have identifiers of their own.
`insert_transaction` sees to it, and so `find` and replacing the first one reach
all that have the identifier. -/
def Distinct (m : Memory) : Prop := (m.transactions.map (·.id)).Nodup

/-- A transaction that is found is in the store, under the identifier and the
user that were looked for. -/
theorem transaction?_mem {t : Transaction} (h : m.transaction? user id = some t) :
    t ∈ m.transactions ∧ t.id = id ∧ t.user = user := by
  have hfound := List.find?_some h
  obtain ⟨hid, hu⟩ := Id.found_iff.1 hfound
  exact ⟨List.mem_of_find?_eq_some h, hid, hu⟩

/-- A rule that is found is in the store, under the identifier and the user that
were looked for. -/
theorem rule?_mem {r : Rule} (h : m.rule? user id = some r) :
    r ∈ m.rules ∧ r.id = id ∧ r.user = user := by
  have hfound := List.find?_some h
  obtain ⟨hid, hu⟩ := Id.found_iff.1 hfound
  exact ⟨List.mem_of_find?_eq_some h, hid, hu⟩

/-- The active rules of a user are those of its rules that are active, whatever
their order. -/
theorem mem_activeRulesOf {r : Rule} :
    r ∈ m.activeRulesOf user ↔ r ∈ m.rules ∧ r.user = user ∧ r.active = true := by
  unfold activeRulesOf
  rw [List.mem_mergeSort, List.mem_filter, Bool.and_eq_true, beq_iff_eq]

/-- There are as many active rules of a user as the table holds; sorting loses
none. -/
theorem length_activeRulesOf (m : Memory) (user : String) :
    (m.activeRulesOf user).length = m.rules.countP fun r => r.user == user && r.active := by
  unfold activeRulesOf
  rw [List.length_mergeSort, List.countP_eq_length_filter]

/-- Where identifiers are distinct, the one of a transaction belongs to it
alone. -/
theorem Distinct.eq_of_id (h : m.Distinct) {s t : Transaction} (hs : s ∈ m.transactions)
    (ht : t ∈ m.transactions) (hid : s.id = t.id) : s = t :=
  List.inj_on_of_nodup_map h hs ht hid

/-- A store with the same identifiers has distinct ones as well. -/
theorem Distinct.congr (h : m.Distinct)
    (hid : m'.transactions.map (·.id) = m.transactions.map (·.id)) : m'.Distinct := by
  unfold Distinct at h ⊢
  rwa [hid]

/-- Where identifiers are distinct, a search finds every transaction. -/
theorem Distinct.transaction?_eq (h : m.Distinct) {t : Transaction} (ht : t ∈ m.transactions) :
    m.transaction? t.user t.id = some t := by
  obtain ⟨s, hs⟩ : ∃ s, m.transaction? t.user t.id = some s := by
    refine Option.isSome_iff_exists.1 (List.find?_isSome.2 ⟨t, ht, ?_⟩)
    simp
  obtain ⟨hm, hid, -⟩ := transaction?_mem hs
  rwa [h.eq_of_id hm ht hid] at hs

/-! ### Counting applications -/

/-- Two stores differ at most in how often and when rules were applied.
Transactions, accounts and what else a store holds are the same, and the rules
stand in the same places. -/
structure SameButUsage (m m' : Memory) : Prop where
  transactions : m'.transactions = m.transactions
  accounts : m'.accounts = m.accounts
  failing : m'.failing = m.failing
  attempts : m'.attempts = m.attempts
  rules : List.Forall₂ Rule.SameButUsage m.rules m'.rules

/-- A store differs in nothing from itself. -/
theorem SameButUsage.refl (m : Memory) : m.SameButUsage m :=
  ⟨rfl, rfl, rfl, rfl, List.forall₂_same.2 fun r _ => .refl r⟩

/-- Differences in usage add up to a difference in usage. -/
theorem SameButUsage.trans {a b c : Memory} (h₁ : a.SameButUsage b) (h₂ : b.SameButUsage c) :
    a.SameButUsage c where
  transactions := h₂.transactions.trans h₁.transactions
  accounts := h₂.accounts.trans h₁.accounts
  failing := h₂.failing.trans h₁.failing
  attempts := h₂.attempts.trans h₁.attempts
  rules := forall₂_trans (fun _ _ _ h h' => h.trans h') h₁.rules h₂.rules

/-- The store after an application of a rule was counted.  No applications leave
the rule as it is, its time included. -/
def count (m : Memory) (rule : Id) (times : Nat) (now : Instant) : Memory :=
  if times = 0 then m
  else { m with rules := modifyFirst (·.id == rule) (·.applied times now) m.rules }

/-- The store after the applications of a usage were counted, rule by rule. -/
def countAll (m : Memory) (usage : Usage) (now : Instant) : Memory :=
  usage.foldl (fun m (rule, times) => m.count rule times now) m

/-- Counting applications of one rule changes its usage and nothing else. -/
theorem sameButUsage_count (m : Memory) (rule : Id) (times : Nat) (now : Instant) :
    m.SameButUsage (m.count rule times now) := by
  unfold count
  split
  · exact .refl m
  · exact ⟨rfl, rfl, rfl, rfl, forall₂_modifyFirst Rule.SameButUsage.refl
      fun r _ => r.sameButUsage_applied times now⟩

/-- A count changes nothing but how often and when rules were applied. -/
theorem sameButUsage_countAll (usage : Usage) (m : Memory) (now : Instant) :
    m.SameButUsage (m.countAll usage now) := by
  induction usage generalizing m with
  | nil => exact .refl m
  | cons entry usage ih => exact (m.sameButUsage_count entry.1 entry.2 now).trans (ih _)

/-! ### Grouped writes -/

variable {category : Option Int64} {merchant : Option String} {ids : List Id} {now : Instant}

/-- A grouped write that fails is put on record and changes nothing else.  Which
writes fail is chosen by the pair of targets (`MemoryStore.fail_group_updates`). -/
theorem assign_of_failing (h : (category, merchant) ∈ m.failing) :
    m.assign user category merchant ids now =
      (.error (.store .groupRejected),
        { m with attempts := m.attempts ++ [⟨category, merchant, ids, false⟩] }) := by
  unfold assign
  rw [List.contains_iff_mem.2 h]
  rfl

/-- A grouped write that goes through changes the transactions it reaches, and
answers how many they are. -/
theorem assign_of_not_failing (h : (category, merchant) ∉ m.failing) :
    m.assign user category merchant ids now =
      (.ok (m.transactions.countP (reaches user ids)), { m with
        attempts := m.attempts ++ [⟨category, merchant, ids, true⟩]
        transactions := m.transactions.map fun t =>
          if reaches user ids t then t.assign category merchant now else t }) := by
  unfold assign
  rw [Bool.eq_false_iff.2 fun hc => h (List.contains_iff_mem.1 hc)]
  rfl

/-- It changes no identifier, so what was found by one is found by it
afterwards. -/
theorem map_id_assigned (user : String) (category : Option Int64) (merchant : Option String)
    (ids : List Id) (now : Instant) (l : List Transaction) :
    (l.map fun t => if reaches user ids t then t.assign category merchant now else t).map (·.id) =
      l.map (·.id) := by
  rw [List.map_map]
  refine List.map_congr_left fun t _ => ?_
  rw [Function.comp_apply]
  split <;> rfl

/-- A grouped write reaches the transactions of its user whose identifiers are
listed. -/
theorem reaches_iff {t : Transaction} :
    reaches user ids t = true ↔ t.user = user ∧ t.id ∈ ids := by
  unfold reaches
  rw [Bool.and_eq_true, beq_iff_eq, List.contains_iff_mem]

variable {ids' : List Id} {t : Transaction}

/-- Two lists of identifiers together reach what one of them reaches. -/
theorem reaches_append (user : String) (ids ids' : List Id) (t : Transaction) :
    reaches user (ids ++ ids') t = (reaches user ids t || reaches user ids' t) := by
  unfold reaches
  rw [List.contains_append, Bool.and_or_distrib_left]

/-- What one list of identifiers reaches, a list without any of them does not. -/
theorem not_reaches_of_disjoint (hdis : ∀ id ∈ ids, id ∉ ids') (h : reaches user ids t = true) :
    reaches user ids' t = false :=
  Bool.eq_false_iff.2 fun h' => hdis _ (reaches_iff.1 h).2 (reaches_iff.1 h').2

/-- Lists without a common transaction reach as many one by one as together, so
the numbers of groups add up to the number of all. -/
theorem countP_reaches_append (hdis : ∀ id ∈ ids, id ∉ ids') (ts : List Transaction) :
    ts.countP (reaches user (ids ++ ids')) =
      ts.countP (reaches user ids) + ts.countP (reaches user ids') := by
  induction ts with
  | nil => rfl
  | cons t ts ih =>
    rw [List.countP_cons, List.countP_cons, List.countP_cons, ih, reaches_append]
    cases hr : reaches user ids t with
    | true =>
      rw [not_reaches_of_disjoint hdis hr]
      simp only [Bool.or_false, Bool.false_eq_true, ↓reduceIte]
      omega
    | false =>
      simp only [Bool.false_or, Bool.false_eq_true, ↓reduceIte]
      omega

/-- Where identifiers are distinct, those of some transactions of a user reach
these alone. -/
theorem Distinct.filter_reaches_perm (h : m.Distinct) {ts : List Transaction}
    (hts : ts.Sublist m.transactions) (hu : ∀ t ∈ ts, t.user = user) :
    (m.transactions.filter (reaches user (ts.map (·.id)))).Perm ts := by
  have hnodup : m.transactions.Nodup := .of_map _ h
  refine (List.perm_ext_iff_of_nodup (hnodup.filter _) (hnodup.sublist hts)).2 fun t => ?_
  rw [List.mem_filter, reaches_iff]
  constructor
  · rintro ⟨ht, -, hid⟩
    obtain ⟨s, hs, he⟩ := List.mem_map.1 hid
    rwa [← h.eq_of_id (hts.subset hs) ht he]
  · intro ht
    exact ⟨hts.subset ht, hu t ht, List.mem_map_of_mem ht⟩

end Memory
end LedgerRules
