/-
# What a bulk run counts

A bulk run adds its counts up group by group.  A write that goes through is
counted with the transactions that the store says it changed, and one that fails
is counted alone.  What the counts come to can be told from the proposals alone
(`bulk_run_counts_exactly`).  The groups have the pairs of the transactions with
a proposal, each pair once, and those whose writes go through are the groups of
the proposals that can be written (`Group.filter_ofOutcomes`).  As no
transaction is in two of them, the store changes each once; and a rule that
supplied both targets of a transaction is counted once for it
(`Group.sum_total_eq_countP`).
-/

import LedgerRules.Proofs.Outcome.Accounts
import LedgerRules.Proofs.Program.Reachable
import LedgerRules.Proofs.Program.Settling

namespace LedgerRules
namespace Memory

/-- The transactions that a bulk run looks at and that something is proposed
for.  This is what it reports as matched, whether or not the writes go through. -/
def matchedOf (m : Memory) (user : String) (ids : Option (List Id)) (includeManual : Bool) :
    List Transaction :=
  (m.eligibleOf user ids includeManual).filter fun t => !(m.proposal user includeManual t).isEmpty

/-- Those of them whose pair can be written.  They are what it reports as
updated, and the only ones that count as an application of a rule. -/
def writtenOf (m : Memory) (user : String) (ids : Option (List Id)) (includeManual : Bool) :
    List Transaction :=
  (m.matchedOf user ids includeManual).filter fun t =>
    !m.failing.contains (m.proposal user includeManual t).pair

/-- The pairs that are proposed, each of them once.  There is one grouped write
for each. -/
def pairsOf (m : Memory) (user : String) (ids : Option (List Id)) (includeManual : Bool) :
    List (Option Int64 × Option String) :=
  ((m.matchedOf user ids includeManual).map fun t =>
    (m.proposal user includeManual t).pair).eraseDups

/-- What a bulk run groups: the proposals for the transactions that it looks at,
the empty ones among them. -/
def proposalsOf (m : Memory) (user : String) (ids : Option (List Id)) (includeManual : Bool) :
    List (Id × Outcome) :=
  (m.eligibleOf user ids includeManual).map fun t => (t.id, m.proposal user includeManual t)

section Counts

variable (m : Memory) (user : String) (ids : Option (List Id)) (includeManual : Bool)

/-- The proposals that are not empty are those for the transactions that count
as matched. -/
theorem filter_proposalsOf :
    (m.proposalsOf user ids includeManual).filter (!·.2.isEmpty) =
      (m.matchedOf user ids includeManual).map fun t =>
        (t.id, m.proposal user includeManual t) := by
  unfold proposalsOf matchedOf
  rw [List.filter_map]
  rfl

/-- The proposals that can be written, empty ones apart, are those that are
written. -/
theorem filter_writable :
    ((m.proposalsOf user ids includeManual).filter
        fun e => !m.failing.contains e.2.pair).filter (!·.2.isEmpty) =
      (m.writtenOf user ids includeManual).map fun t =>
        (t.id, m.proposal user includeManual t) := by
  rw [List.filter_comm, filter_proposalsOf, List.filter_map]
  rfl

/-! ### Groups -/

/-- The groups of a bulk run are told apart by the pairs that are proposed, one
group for each. -/
theorem map_key_bulkGroups :
    (m.bulkGroups user ids includeManual).map Group.key = m.pairsOf user ids includeManual := by
  have hpairs := Group.map_key_ofOutcomes (m.proposalsOf user ids includeManual)
  rw [filter_proposalsOf, List.map_map] at hpairs
  exact hpairs

/-- The groups whose writes go through are those of the proposals that can be
written. -/
theorem filter_accepts_bulkGroups :
    (m.bulkGroups user ids includeManual).filter m.accepts =
      Group.ofOutcomes ((m.proposalsOf user ids includeManual).filter
        fun e => !m.failing.contains e.2.pair) :=
  Group.filter_ofOutcomes (!m.failing.contains ·) _

/-- The groups hold each transaction that counts as matched, and no other. -/
theorem length_flatMap_bulkGroups :
    ((m.bulkGroups user ids includeManual).flatMap (·.transactions)).length =
      (m.matchedOf user ids includeManual).length := by
  have hperm := Group.flatMap_ofOutcomes_perm (m.proposalsOf user ids includeManual)
  rw [filter_proposalsOf, List.map_map] at hperm
  exact hperm.length_eq.trans (List.length_map _)

/-- As many groups fail as there are pairs that fail. -/
theorem length_filter_not_accepts :
    ((m.bulkGroups user ids includeManual).filter (!m.accepts ·)).length =
      (m.pairsOf user ids includeManual).countP m.failing.contains := by
  rw [← map_key_bulkGroups, List.countP_map, List.countP_eq_length_filter]
  refine congrArg List.length (List.filter_congr fun g _ => ?_)
  unfold accepts
  rw [Bool.not_not]
  rfl

/-- The writes that go through and those that fail are as many as there are
pairs. -/
theorem length_filter_accepts_add :
    ((m.bulkGroups user ids includeManual).filter m.accepts).length +
        ((m.bulkGroups user ids includeManual).filter (!m.accepts ·)).length =
      (m.pairsOf user ids includeManual).length := by
  rw [← List.length_eq_length_filter_add, ← map_key_bulkGroups, List.length_map]

/-! ### Transactions -/

variable {m}

/-- What is written stands in the order of the store. -/
theorem sublist_writtenOf :
    (m.writtenOf user ids includeManual).Sublist m.transactions :=
  List.filter_sublist.trans (List.filter_sublist.trans List.filter_sublist)

/-- **Each transaction is changed once**: the writes that go through change as
many as have a proposal that can be written. -/
theorem Distinct.sum_countP_bulkGroups (hd : m.Distinct) :
    (((m.bulkGroups user ids includeManual).filter m.accepts).map fun g =>
        m.transactions.countP (reaches user g.transactions)).sum =
      (m.writtenOf user ids includeManual).length := by
  have hown : ∀ t ∈ m.writtenOf user ids includeManual, t.user = user := fun t ht =>
    (mem_eligibleOf.1 (List.mem_of_mem_filter (List.mem_of_mem_filter ht))).2.1
  have hperm : (((m.bulkGroups user ids includeManual).filter m.accepts).flatMap
      (·.transactions)).Perm ((m.writtenOf user ids includeManual).map (·.id)) := by
    have h := Group.flatMap_ofOutcomes_perm ((m.proposalsOf user ids includeManual).filter
      fun e => !m.failing.contains e.2.pair)
    rwa [filter_writable, List.map_map, ← filter_accepts_bulkGroups] at h
  have hreaches : reaches user (((m.bulkGroups user ids includeManual).filter m.accepts).flatMap
      (·.transactions)) = reaches user ((m.writtenOf user ids includeManual).map (·.id)) := by
    funext t
    rw [Bool.eq_iff_iff, reaches_iff, reaches_iff, hperm.mem_iff]
  have hwritten := hd.filter_reaches_perm (sublist_writtenOf user ids includeManual) hown
  rw [sum_countP_reaches (hd.apart_bulkGroups.filter _), hreaches, List.countP_eq_length_filter,
    hwritten.length_eq]

/-! ### Rules -/

/-- **A rule is counted once for each transaction** that is written and that it
contributed to. -/
theorem total_usageOf_bulkGroups (rule : Id) :
    (m.usageOf (m.bulkGroups user ids includeManual) []).total rule =
      (m.writtenOf user ids includeManual).countP fun t =>
        (m.proposal user includeManual t).isFrom rule := by
  rw [total_usageOf, filter_accepts_bulkGroups, Group.sum_total_eq_countP, filter_writable,
    List.countP_map, Usage.total_nil, Nat.zero_add]
  rfl

end Counts

/-- An active rule of the user is among the active rules, so the bulk run does
not end before it looks at any transaction. -/
theorem activeRulesOf_ne_nil {m : Memory} {user : String}
    (h : ∃ r ∈ m.rules, r.user = user ∧ r.active = true) : m.activeRulesOf user ≠ [] := by
  obtain ⟨r, hr, hactive⟩ := h
  exact List.ne_nil_of_mem (mem_activeRulesOf.2 ⟨hr, hactive⟩)

end Memory

/-- **A bulk run counts exactly.** If the user has an active rule, the answer
has the number of active rules, of transactions that are looked at, and of those
that something is proposed for.  The groups that were written and those that
failed are as many as there are different pairs, and those that failed as many
as there are pairs whose writes fail; the transactions that were changed are
those that something can be written to.  Every rule was applied once more for
each of these that it contributed to, and no rule is changed otherwise. -/
theorem bulk_run_counts_exactly {w : World Memory} (h : Reachable w) {user : String}
    (hrule : ∃ r ∈ w.store.rules, r.user = user ∧ r.active = true) (ids : Option (List Id))
    (includeManual : Bool) :
    ∃ summary w', (Action.applyToExisting user ids includeManual).run w = (.ok summary, w') ∧
      summary.rulesEvaluated = w.store.rules.countP (fun r => r.user == user && r.active) ∧
      summary.transactionsEvaluated = (w.store.eligibleOf user ids includeManual).length ∧
      summary.transactionsMatched = (w.store.matchedOf user ids includeManual).length ∧
      summary.groupsWritten + summary.groupsFailed =
        (w.store.pairsOf user ids includeManual).length ∧
      summary.groupsFailed =
        (w.store.pairsOf user ids includeManual).countP w.store.failing.contains ∧
      summary.updated = (w.store.writtenOf user ids includeManual).length ∧
      List.Forall₂ (Rule.Credited fun rule => (w.store.writtenOf user ids includeManual).countP
        fun t => (w.store.proposal user includeManual t).isFrom rule)
        w.store.rules w'.store.rules := by
  obtain ⟨r, w', hrun, hr⟩ := (Action.applyToExisting_yields user ids includeManual w).exists_run
  rw [hrun]
  generalize hm' : w'.store = m' at hr
  cases hr with
  | idle hno => exact absurd hno (Memory.activeRulesOf_ne_nil hrule)
  | done _ hw later =>
    refine ⟨_, w', rfl, w.store.length_activeRulesOf user, rfl,
      w.store.length_flatMap_bulkGroups user ids includeManual, ?_, ?_, ?_, ?_⟩
    · show 0 + _ + (0 + _) = _
      rw [Nat.zero_add, Nat.zero_add]
      exact w.store.length_filter_accepts_add user ids includeManual
    · exact (Nat.zero_add _).trans (w.store.length_filter_not_accepts user ids includeManual)
    · exact (Nat.zero_add _).trans (h.distinct.sum_countP_bulkGroups user ids includeManual)
    · rw [hm']
      refine (Memory.credited_countAll_of_rules h.distinctRules hw.frame.2.1 _ later).imp
        fun x x' hx => ?_
      exact hx.congr (Memory.total_usageOf_bulkGroups user ids includeManual x.id)

/-- Of the two purchases one is written: its rule was applied once, to the
merchant, and the group of the other fails. -/
theorem bulk_run_counts_bread_alone :
    (∃ r ∈ Sample.world.store.rules, r.user = "ana" ∧ r.active = true) ∧
      ∃ summary w', (Action.applyToExisting "ana" none false).run Sample.world =
          (.ok summary, w') ∧
        summary.transactionsMatched = 2 ∧ summary.groupsWritten = 1 ∧
        summary.groupsFailed = 1 ∧ summary.updated = 1 ∧
        ∀ r' ∈ w'.store.rules, r'.timesApplied = 1 := by
  have hrule : ∃ r ∈ Sample.world.store.rules, r.user = "ana" ∧ r.active = true := by
    decide +kernel
  refine ⟨hrule, ?_⟩
  obtain ⟨summary, w', hrun, -, -, hmatched, hgroups, hfailed, hupdated, hrules⟩ :=
    bulk_run_counts_exactly Sample.reachable_world hrule none false
  have hpairs : Sample.world.store.pairsOf "ana" none false =
      [(none, some "Baker"), (some 9, some "Baker")] := by decide +kernel
  have hwritten : Sample.world.store.writtenOf "ana" none false = [Sample.bread] := by
    decide +kernel
  have hfailing : Sample.world.store.failing = [(some 9, some "Baker")] := by decide +kernel
  rw [hpairs] at hgroups hfailed
  rw [hfailing] at hfailed
  rw [hwritten] at hupdated hrules
  have hlate : summary.groupsFailed = 1 := hfailed
  have hboth : summary.groupsWritten + summary.groupsFailed = 2 := hgroups
  refine ⟨summary, w', hrun, ?_, by omega, hlate, hupdated, fun r' hr' => ?_⟩
  · rw [hmatched]
    decide +kernel
  · obtain ⟨r, hr, last, rfl⟩ := exists_of_forall₂ hrules.flip r' hr'
    have hcount : ∀ r ∈ Sample.world.store.rules, r.timesApplied +
        (([Sample.bread].countP fun t =>
          (Sample.world.store.proposal "ana" false t).isFrom r.id : Nat) : Int) = 1 := by
      decide +kernel
    exact hcount r hr

end LedgerRules
