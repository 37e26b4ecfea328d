/-
# What the application of rules does to a store

Rules are applied to one transaction (`Classifies`), or to many in a bulk run
(`Reapplies`).  Both are told here as what becomes of a store of records and
what the answer is; that the actions do just this is in
`Proofs.Program.Application`.

A bulk run writes group by group.  As no transaction is in two groups, each is
written at most once, and the order of the writes and the failure of some do not
matter: a transaction gets what is proposed for it, or it stays
(`Reapplies.transactions`).
-/

import LedgerRules.Program.Rules
import LedgerRules.Proofs.Outcome.Grouping
import LedgerRules.Proofs.Store.Records
import Mathlib.Algebra.GroupWithZero.Nat

namespace LedgerRules

/-- The applications that an outcome stands for, each counted a number of
times.  A rule that supplied both targets is counted once. -/
def Outcome.usage (o : Outcome) (times : Nat) : Usage :=
  o.contributing.foldl (fun usage rule => usage.add rule times) []

namespace Memory

/-- What the rules of a user propose for a transaction, as the store stands.  A
single application and a bulk run propose the same. -/
def proposal (m : Memory) (user : String) (includeManual : Bool) (t : Transaction) : Outcome :=
  Action.bulkOutcome (m.activeRulesOf user) includeManual t
    ((m.account? user t.account).map Account.view)

/-- Nothing is proposed for a transaction that was set by hand as a whole. -/
theorem proposal_of_fullyManual (m : Memory) (user : String) {t : Transaction}
    (h : t.fullyManual = true) : m.proposal user false t = .nothing := by
  rw [Transaction.fullyManual, Bool.and_eq_true] at h
  unfold proposal Action.bulkOutcome
  rw [h.1, h.2]
  rfl

/-- A target that was set by hand is not proposed. -/
theorem proposal_category (m : Memory) (user : String) {t : Transaction}
    (h : t.categoryManual = true) : (m.proposal user false t).category = none := by
  unfold proposal Action.bulkOutcome
  rw [h]
  rfl

/-- The same goes for the merchant. -/
theorem proposal_merchant (m : Memory) (user : String) {t : Transaction}
    (h : t.merchantManual = true) : (m.proposal user false t).merchant = none := by
  unfold proposal Action.bulkOutcome
  rw [h]
  rfl

/-- Without active rules nothing is proposed. -/
theorem proposal_of_no_rules {m : Memory} {user : String} (h : m.activeRulesOf user = [])
    (includeManual : Bool) (t : Transaction) : m.proposal user includeManual t = .nothing := by
  unfold proposal Action.bulkOutcome
  rw [h]
  cases includeManual
  · show Outcome.withoutManual .nothing _ _ = _
    cases t.categoryManual <;> cases t.merchantManual <;> rfl
  · rfl

/-! ### One transaction -/

/-- How rules are applied to one transaction: the answer and the store after
it.  This is `apply_to_transaction` with one case for each way it can end. -/
inductive Classifies (m : Memory) (user : String) (id : Id) : Except Error Outcome → Memory → Prop
  | missing (h : m.transaction? user id = none) :
    Classifies m user id (.error (.missing (.transaction id))) m
  | silent {t : Transaction} {o : Outcome} (h : m.transaction? user id = some t)
      (hp : m.proposal user false t = o) (ho : o.isEmpty = true) :
    Classifies m user id (.ok o) m
  | refused {t : Transaction} {o : Outcome} (h : m.transaction? user id = some t)
      (hp : m.proposal user false t = o) (ho : o.isEmpty = false) (hf : o.pair ∈ m.failing)
      (now : Instant) :
    Classifies m user id (.error (.store .groupRejected))
      (m.assign user o.category o.merchant [id] now).2
  | written {t : Transaction} {o : Outcome} (h : m.transaction? user id = some t)
      (hp : m.proposal user false t = o) (ho : o.isEmpty = false) (hf : o.pair ∉ m.failing)
      (now later : Instant) :
    Classifies m user id (.ok o) ((m.assign user o.category o.merchant [id] now).2.countAll
      (o.usage (m.transactions.countP (reaches user [id]))) later)

/-! ### Groups one after the other -/

/-- Whether the write of a group goes through.  In a store of records a write
fails by its pair of targets alone. -/
def accepts (m : Memory) (g : Group) : Bool := !m.failing.contains g.key

/-- A group is accepted if its pair is not one of those whose writes fail. -/
theorem accepts_iff {m : Memory} {g : Group} : m.accepts g = true ↔ g.key ∉ m.failing := by
  unfold accepts
  rw [Bool.not_eq_true', ← Bool.not_eq_true, List.contains_iff_mem]

/-- Which groups are accepted depends on those pairs alone. -/
theorem accepts_congr {m m' : Memory} (h : m'.failing = m.failing) : m'.accepts = m.accepts := by
  funext g
  unfold accepts
  rw [h]

/-- The store after the writes of groups, each at its own time.  Those that fail
leave nothing but the attempt. -/
inductive Writes (user : String) : Memory → List Group → Memory → Prop
  | nil {m : Memory} : Writes user m [] m
  | cons {m m' : Memory} {g : Group} {groups : List Group} (now : Instant)
      (h : Writes user (m.assign user g.category g.merchant g.transactions now).2 groups m') :
    Writes user m (g :: groups) m'

/-- What one write leaves alone. -/
theorem assign_frame (m : Memory) (user : String) (g : Group) (now : Instant) :
    let m' := (m.assign user g.category g.merchant g.transactions now).2
    m'.accounts = m.accounts ∧ m'.rules = m.rules ∧ m'.failing = m.failing := by
  by_cases hf : g.key ∈ m.failing
  · rw [assign_of_failing hf]
    exact ⟨rfl, rfl, rfl⟩
  · rw [assign_of_not_failing hf]
    exact ⟨rfl, rfl, rfl⟩

/-- Which groups are accepted does not change with the writes. -/
theorem accepts_assign (m : Memory) (user : String) (g : Group) (now : Instant) :
    (m.assign user g.category g.merchant g.transactions now).2.accepts = m.accepts :=
  accepts_congr (assign_frame m user g now).2.2

/-- A write changes neither whom a transaction belongs to nor its identifier. -/
theorem reaches_assign {user : String} {ids : List Id} {t : Transaction}
    {category : Option Int64} {merchant : Option String} {now : Instant} :
    reaches user ids (t.assign category merchant now) = reaches user ids t := rfl

/-- How many transactions a write reaches does not change with the writes before
it. -/
theorem countP_reaches_assign (m : Memory) (user : String) (g : Group) (now : Instant)
    (ids : List Id) :
    (m.assign user g.category g.merchant g.transactions now).2.transactions.countP
      (reaches user ids) = m.transactions.countP (reaches user ids) := by
  by_cases hf : g.key ∈ m.failing
  · rw [assign_of_failing hf]
  · rw [assign_of_not_failing hf, List.countP_map]
    refine congrArg (List.countP · _) (funext fun t => ?_)
    rw [Function.comp_apply]
    split <;> rfl

/-- Grouped writes change no account, no rule and no chosen pair. -/
theorem Writes.frame {user : String} {m m' : Memory} {groups : List Group}
    (h : Writes user m groups m') :
    m'.accounts = m.accounts ∧ m'.rules = m.rules ∧ m'.failing = m.failing := by
  induction h with
  | nil => exact ⟨rfl, rfl, rfl⟩
  | @cons m _ g _ now _ ih =>
    obtain ⟨ha, hr, hf⟩ := assign_frame m user g now
    exact ⟨ih.1.trans ha, ih.2.1.trans hr, ih.2.2.trans hf⟩

/-- What grouped writes make of one transaction: it stays if no accepted group
reaches it, and gets the pair of one that does. -/
inductive Written (m : Memory) (user : String) (groups : List Group) (t : Transaction) :
    Transaction → Prop
  | kept (h : ∀ g ∈ groups, m.accepts g = true → reaches user g.transactions t = false) :
    Written m user groups t t
  | assigned {g : Group} (hg : g ∈ groups) (ha : m.accepts g = true)
      (hr : reaches user g.transactions t = true) (now : Instant) :
    Written m user groups t (t.assign g.category g.merchant now)

/-- No transaction is in two of the groups, so no write is undone by another one
of the same run. -/
def Apart (groups : List Group) : Prop :=
  groups.Pairwise fun g g' => ∀ id ∈ g.transactions, id ∉ g'.transactions

/-- Groups that divide the proposals of different transactions hold none in two. -/
theorem Apart.of_divides {groups : List Group} {outcomes : List (Id × Outcome)}
    (h : Group.Divides groups outcomes) (hid : (outcomes.map Prod.fst).Nodup) : Apart groups :=
  (List.pairwise_map.1 h.keys).imp_of_mem fun hg hg' hne _ hi hi' =>
    hne (congrArg Group.key (h.group_eq hid hg hg' hi hi'))

/-- Groups without a common transaction reach as many one by one as together. -/
theorem sum_countP_reaches {user : String} {groups : List Group} (h : Apart groups)
    (ts : List Transaction) :
    (groups.map fun g => ts.countP (reaches user g.transactions)).sum =
      ts.countP (reaches user (groups.flatMap (·.transactions))) := by
  induction groups with
  | nil =>
    have hnone : reaches user [] = fun _ => false := funext fun t => Bool.and_false _
    rw [List.map_nil, List.flatMap_nil, hnone, List.countP_false]
    rfl
  | cons g rest ih =>
    obtain ⟨hg, hrest⟩ := List.pairwise_cons.1 h
    rw [List.map_cons, List.sum_cons, ih hrest, List.flatMap_cons, countP_reaches_append]
    intro id hid hmem
    obtain ⟨g', hg', hid'⟩ := List.mem_flatMap.1 hmem
    exact hg g' hg' id hid hid'

/-- What the later groups make of a transaction that the first one does not
reach. -/
theorem Written.cons {m m₁ : Memory} {user : String} {g : Group} {groups : List Group}
    {t t' : Transaction} (hacc : m₁.accepts = m.accepts)
    (hg : m.accepts g = true → reaches user g.transactions t = false)
    (h : m₁.Written user groups t t') : m.Written user (g :: groups) t t' := by
  have hacc := congrFun hacc
  cases h with
  | kept hk =>
    refine .kept fun g' hg' ha => ?_
    rcases List.mem_cons.1 hg' with rfl | hg'
    · exact hg ha
    · exact hk g' hg' ((hacc g').trans ha)
  | @assigned g' hg' ha hr now =>
    exact .assigned (List.mem_cons_of_mem _ hg') ((hacc g').symm.trans ha) hr now

/-- **Each transaction is written at most once**, by the one accepted group it
is in.  This is where it is used that no two groups share a transaction. -/
theorem Writes.transactions {user : String} {m m' : Memory} {groups : List Group}
    (h : Writes user m groups m') (hd : Apart groups) :
    List.Forall₂ (Written m user groups) m.transactions m'.transactions := by
  induction h with
  | nil => exact List.forall₂_same.2 fun t _ => .kept (by simp)
  | @cons m m' g groups now h ih =>
    obtain ⟨hg, hd⟩ := List.pairwise_cons.1 hd
    have hacc := accepts_assign m user g now
    have ih := ih hd
    by_cases hf : g.key ∈ m.failing
    · have hsame : (m.assign user g.category g.merchant g.transactions now).2.transactions =
          m.transactions := by rw [assign_of_failing hf]
      rw [hsame] at ih
      exact ih.imp fun t t' hw => hw.cons hacc fun ha => absurd hf (accepts_iff.1 ha)
    · have hmap : (m.assign user g.category g.merchant g.transactions now).2.transactions =
          m.transactions.map fun t => if reaches user g.transactions t
            then t.assign g.category g.merchant now else t := by rw [assign_of_not_failing hf]
      rw [hmap, List.forall₂_map_left_iff] at ih
      refine ih.imp fun t t' hw => ?_
      by_cases hr : reaches user g.transactions t = true
      · -- No later group reaches what this one wrote.
        rw [if_pos hr] at hw
        cases hw with
        | kept _ => exact .assigned (List.mem_cons_self ..) (accepts_iff.2 hf) hr now
        | assigned hg' _ hr' _ =>
          rw [reaches_assign] at hr'
          exact absurd (reaches_iff.1 hr').2 (hg _ hg' _ (reaches_iff.1 hr).2)
      · rw [if_neg hr] at hw
        exact hw.cons hacc fun _ => Bool.eq_false_iff.2 hr

/-! ### Bulk runs -/

/-- The groups that a bulk run writes, in the order in which their pairs come
up. -/
def bulkGroups (m : Memory) (user : String) (ids : Option (List Id)) (includeManual : Bool) :
    List Group :=
  Group.ofOutcomes ((m.eligibleOf user ids includeManual).map fun t =>
    (t.id, m.proposal user includeManual t))

/-- A summary with the writes of groups counted.  What fails is counted as well,
and the run goes on. -/
def tally (m : Memory) (user : String) (groups : List Group) (s : BulkSummary) : BulkSummary :=
  { s with
    groupsWritten := s.groupsWritten + (groups.filter m.accepts).length
    groupsFailed := s.groupsFailed + (groups.filter (!m.accepts ·)).length
    updated := s.updated + ((groups.filter m.accepts).map fun g =>
      m.transactions.countP (reaches user g.transactions)).sum }

/-- What is counted depends on the writes that fail and on how many transactions
are reached. -/
theorem tally_congr {m m' : Memory} {user : String} (hf : m'.failing = m.failing)
    (hr : ∀ ids, m'.transactions.countP (reaches user ids) =
      m.transactions.countP (reaches user ids)) (groups : List Group) (s : BulkSummary) :
    m'.tally user groups s = m.tally user groups s := by
  unfold tally
  simp only [accepts_congr hf, hr]

/-- The usage of the groups whose writes go through.  Applications of rules are
counted only after they were written. -/
def usageOf (m : Memory) (groups : List Group) (usage : Usage) : Usage :=
  (groups.filter m.accepts).foldl (fun usage g => usage.merge g.usage) usage

/-- A write that fails is counted, and nothing else. -/
theorem tally_of_failing {m : Memory} {g : Group} (h : g.key ∈ m.failing) (user : String)
    (s : BulkSummary) : m.tally user [g] s = { s with groupsFailed := s.groupsFailed + 1 } := by
  have hno : ¬m.accepts g = true := fun ha => accepts_iff.1 ha h
  simp [tally, hno]

/-- One that goes through is counted with the transactions it reaches. -/
theorem tally_of_not_failing {m : Memory} {g : Group} (h : g.key ∉ m.failing) (user : String)
    (s : BulkSummary) : m.tally user [g] s =
      { s with
        groupsWritten := s.groupsWritten + 1
        updated := s.updated + m.transactions.countP (reaches user g.transactions) } := by
  simp [tally, accepts_iff.2 h]

/-- A write that fails counts for no rule. -/
theorem usageOf_of_failing {m : Memory} {g : Group} (h : g.key ∈ m.failing) (usage : Usage) :
    m.usageOf [g] usage = usage := by
  have hno : ¬m.accepts g = true := fun ha => accepts_iff.1 ha h
  simp [usageOf, hno]

/-- One that goes through counts for the rules of its group. -/
theorem usageOf_of_not_failing {m : Memory} {g : Group} (h : g.key ∉ m.failing) (usage : Usage) :
    m.usageOf [g] usage = usage.merge g.usage := by
  simp [usageOf, accepts_iff.2 h]

/-- A write is counted as what it is, and the others as before it. -/
theorem tally_cons (m : Memory) (user : String) (g : Group) (groups : List Group)
    (s : BulkSummary) (now : Instant) :
    m.tally user (g :: groups) s =
      (m.assign user g.category g.merchant g.transactions now).2.tally user groups
        (m.tally user [g] s) := by
  unfold tally
  rw [accepts_assign]
  simp only [countP_reaches_assign]
  by_cases ha : m.accepts g = true
  · simp [ha]
    omega
  · simp [ha]
    omega

/-- The usage of a write is merged before that of the writes behind it. -/
theorem usageOf_cons (m : Memory) (user : String) (g : Group) (groups : List Group)
    (usage : Usage) (now : Instant) :
    m.usageOf (g :: groups) usage =
      (m.assign user g.category g.merchant g.transactions now).2.usageOf groups
        (m.usageOf [g] usage) := by
  unfold usageOf
  rw [accepts_assign, ← List.foldl_append, ← List.filter_append]
  rfl

/-- What a bulk run answers.  It is worked out from the store before the run,
without carrying it out. -/
def bulkSummary (m : Memory) (user : String) (ids : Option (List Id)) (includeManual : Bool) :
    BulkSummary :=
  m.tally user (m.bulkGroups user ids includeManual)
    { rulesEvaluated := (m.activeRulesOf user).length
      transactionsEvaluated := (m.eligibleOf user ids includeManual).length
      transactionsMatched :=
        ((m.bulkGroups user ids includeManual).flatMap (·.transactions)).length }

/-- A bulk run: the answer and the store after it.  This is `apply_to_existing`;
without active rules it returns at once. -/
inductive Reapplies (m : Memory) (user : String) (ids : Option (List Id)) (includeManual : Bool) :
    Except Error BulkSummary → Memory → Prop
  | idle (h : m.activeRulesOf user = []) : Reapplies m user ids includeManual (.ok {}) m
  | done {m' : Memory} (h : m.activeRulesOf user ≠ [])
      (hw : Writes user m (m.bulkGroups user ids includeManual) m') (later : Instant) :
    Reapplies m user ids includeManual (.ok (m.bulkSummary user ids includeManual))
      (m'.countAll (m.usageOf (m.bulkGroups user ids includeManual) []) later)

variable {m m' : Memory} {user : String} {ids : Option (List Id)} {includeManual : Bool}

/-- A bulk run looks at the transactions of its user that are listed and not
fully manual, unless that does not count. -/
theorem mem_eligibleOf {t : Transaction} :
    t ∈ m.eligibleOf user ids includeManual ↔ t ∈ m.transactions ∧ t.user = user ∧
      (includeManual = true ∨ t.fullyManual = false) ∧ ∀ l, ids = some l → t.id ∈ l := by
  unfold eligibleOf
  rw [List.mem_filter, Bool.and_eq_true, Bool.and_eq_true, Bool.or_eq_true, beq_iff_eq,
    Bool.not_eq_true', and_assoc]
  cases ids with
  | none => simp
  | some l => simp

/-- The groups of a bulk run divide the proposals for the transactions that it
looks at. -/
theorem divides_bulkGroups (m : Memory) (user : String) (ids : Option (List Id))
    (includeManual : Bool) :
    Group.Divides (m.bulkGroups user ids includeManual)
      ((m.eligibleOf user ids includeManual).map fun t =>
        (t.id, m.proposal user includeManual t)) :=
  Group.divides_ofOutcomes _

/-- A transaction is in the group of what is proposed for it, and in no other. -/
theorem Distinct.mem_bulkGroups (hd : m.Distinct) {g : Group}
    (hg : g ∈ m.bulkGroups user ids includeManual) {t : Transaction} (ht : t ∈ m.transactions) :
    t.id ∈ g.transactions ↔
      t ∈ m.eligibleOf user ids includeManual ∧ (m.proposal user includeManual t).pair = g.key := by
  rw [(divides_bulkGroups m user ids includeManual).transactions g hg, Group.mem_sharing]
  constructor
  · rintro ⟨o, ho, hp⟩
    obtain ⟨s, hs, he⟩ := List.mem_map.1 ho
    obtain ⟨hid, rfl⟩ := Prod.mk.inj he
    obtain rfl := hd.eq_of_id (mem_eligibleOf.1 hs).1 ht hid
    exact ⟨hs, hp⟩
  · rintro ⟨he, hp⟩
    exact ⟨_, List.mem_map_of_mem he, hp⟩

/-- No transaction is in two of the groups of a bulk run. -/
theorem Distinct.apart_bulkGroups (hd : m.Distinct) :
    Apart (m.bulkGroups user ids includeManual) := by
  refine .of_divides (divides_bulkGroups m user ids includeManual) ?_
  rw [List.map_map]
  exact hd.sublist (List.filter_sublist.map _)

/-- A bulk run writes a transaction: it belongs to the user and is listed, it
was not set by hand as a whole unless that does not count, and what is proposed
for it is something that can be written. -/
structure Overwrites (m : Memory) (user : String) (ids : Option (List Id)) (includeManual : Bool)
    (t : Transaction) : Prop where
  owned : t.user = user
  listed : ∀ l, ids = some l → t.id ∈ l
  free : includeManual = true ∨ t.fullyManual = false
  proposes : (m.proposal user includeManual t).isEmpty = false
  accepted : (m.proposal user includeManual t).pair ∉ m.failing

/-- What a bulk run makes of one transaction: it is kept, or it is given what
was proposed for it. -/
inductive Reapplied (m : Memory) (user : String) (ids : Option (List Id)) (includeManual : Bool)
    (t : Transaction) : Transaction → Prop
  | kept (h : ¬m.Overwrites user ids includeManual t) : Reapplied m user ids includeManual t t
  | assigned (h : m.Overwrites user ids includeManual t) (now : Instant) :
    Reapplied m user ids includeManual t (t.assign (m.proposal user includeManual t).category
      (m.proposal user includeManual t).merchant now)

/-- The groups that reach a transaction are those that hold what is proposed for
it. -/
theorem Distinct.reapplied_of_written (hd : m.Distinct) {t t' : Transaction}
    (ht : t ∈ m.transactions) (h : m.Written user (m.bulkGroups user ids includeManual) t t') :
    m.Reapplied user ids includeManual t t' := by
  have hdiv := divides_bulkGroups m user ids includeManual
  cases h with
  | kept hk =>
    refine .kept fun ho => ?_
    have he : t ∈ m.eligibleOf user ids includeManual :=
      mem_eligibleOf.2 ⟨ht, ho.owned, ho.free, ho.listed⟩
    obtain ⟨g, hg, hkey⟩ := List.mem_map.1 (hdiv.covers _ (List.mem_map_of_mem he) ho.proposes)
    have hr := hk g hg (accepts_iff.2 (hkey ▸ ho.accepted))
    have hid := (hd.mem_bulkGroups hg ht).2 ⟨he, hkey.symm⟩
    rw [reaches_iff.2 ⟨ho.owned, hid⟩] at hr
    exact Bool.noConfusion hr
  | @assigned g hg ha hr now =>
    obtain ⟨he, hp⟩ := (hd.mem_bulkGroups hg ht).1 (reaches_iff.1 hr).2
    obtain ⟨-, hu, hm, hl⟩ := mem_eligibleOf.1 he
    have hne : (m.proposal user includeManual t).isEmpty = false :=
      Bool.eq_false_iff.2 fun h0 => hdiv.proposes g hg (hp ▸ Outcome.isEmpty_iff.1 h0)
    have ho : m.Overwrites user ids includeManual t :=
      ⟨hu, hl, hm, hne, hp ▸ accepts_iff.1 ha⟩
    obtain ⟨hc, hmer⟩ := Prod.mk.inj hp
    rw [← hc, ← hmer]
    exact .assigned ho now

/-- **A bulk run is what it does to each transaction.** Nothing is written but
what is proposed for the transaction itself, from the store before the run. -/
theorem Reapplies.transactions {r : Except Error BulkSummary} (hd : m.Distinct)
    (h : m.Reapplies user ids includeManual r m') :
    List.Forall₂ (m.Reapplied user ids includeManual) m.transactions m'.transactions := by
  cases h with
  | idle h =>
    refine List.forall₂_same.2 fun t _ => .kept fun ho => ?_
    have := ho.proposes
    rw [proposal_of_no_rules h] at this
    exact Bool.noConfusion this
  | @done m' _ hw later =>
    rw [(sameButUsage_countAll _ _ _).transactions]
    have hall := (List.forall₂_and_left _ _).2
      ⟨fun _ ht => ht, hw.transactions hd.apart_bulkGroups⟩
    exact hall.imp fun t t' ht => hd.reapplied_of_written ht.1 ht.2

/-- A bulk run always has an answer. -/
theorem Reapplies.ok {r : Except Error BulkSummary} (h : m.Reapplies user ids includeManual r m') :
    ∃ summary, r = .ok summary := by
  cases h with
  | idle _ => exact ⟨_, rfl⟩
  | done _ _ _ => exact ⟨_, rfl⟩

/-- A bulk run changes no account, and of rules only how often and when they
were applied. -/
theorem Reapplies.frame {r : Except Error BulkSummary}
    (h : m.Reapplies user ids includeManual r m') :
    m'.accounts = m.accounts ∧ m'.failing = m.failing ∧
      List.Forall₂ Rule.SameButUsage m.rules m'.rules := by
  cases h with
  | idle h => exact ⟨rfl, rfl, List.forall₂_same.2 fun r _ => .refl r⟩
  | @done m' _ hw later =>
    obtain ⟨ha, hr, hf⟩ := hw.frame
    have hs := sameButUsage_countAll (m.usageOf (m.bulkGroups user ids includeManual) []) m' later
    exact ⟨hs.accounts.trans ha, hs.failing.trans hf, hr ▸ hs.rules⟩

end Memory
end LedgerRules
