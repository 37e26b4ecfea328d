/-
# Counters of rules

A store keeps with each rule how often it was applied and when for the last
time.  Whoever writes a rule writes the whole of it, and may have read it before
others counted applications; the stores therefore take the counter from the
stored rule and never from the one they are given.

`KeepsCounters` says this of a store, call by call: an insertion brings the
counter in, a record of applications that succeeds adds to it, and nothing else
changes it while the rule is not deleted.  A run of calls then leaves the
counter of the insertion with all that was recorded for the rule since
(`KeepsCounters.after`), which is a sum and the time of the last record that
counted something (`Counter.recordAll_eq`).  A store of records keeps counters
as long as rules have identifiers of their own, because it counts for the first
rule it finds; a store of rows counts for every row with the text of the
identifier.
-/

import LedgerRules.Proofs.Store.Mirror
import LedgerRules.Proofs.Store.Shares

namespace LedgerRules

/-! ### Counters -/

/-- How often a rule was applied, and when for the last time, as a store keeps
it.  No bound is set on the count. -/
structure Counter (τ : Type) where
  times : Int
  last : Option τ

namespace Counter

variable {τ : Type}

/-- The counter after a number of applications at a time; no application is no
time, since `record_rule_applications` returns early when there is nothing to
count. -/
def record (k : Counter τ) (count : Nat) (now : τ) : Counter τ :=
  if count = 0 then k else ⟨k.times + count, some now⟩

/-- The counter after all of some records, whose times are kept as `cell` says.
They are added up, and the last time is that of the last of them. -/
def recordAll (cell : Instant → τ) (k : Counter τ) (records : List (Nat × Instant)) : Counter τ :=
  records.foldl (fun k e => k.record e.1 (cell e.2)) k

/-- The records for a rule are those that name it; others leave its counter
alone. -/
theorem recordAll_ite (cell : Instant → τ) (k : Counter τ) (p : Prop) [Decidable p] (count : Nat)
    (now : Instant) :
    k.recordAll cell (if p then [(count, now)] else []) =
      if p then k.record count (cell now) else k := by
  split <;> rfl

/-- Records that come later start from what the earlier ones left. -/
theorem recordAll_append (cell : Instant → τ) (k : Counter τ) (l l' : List (Nat × Instant)) :
    k.recordAll cell (l ++ l') = (k.recordAll cell l).recordAll cell l' :=
  List.foldl_append

end Counter

/-- The time of the last of some records that counted something.  Records of no
applications are passed over, because stores do nothing for them. -/
def lastCounted? (records : List (Nat × Instant)) : Option Instant :=
  ((records.filter (·.1 != 0)).getLast?).map (·.2)

/-- The first of some records says the time only if no later one does. -/
theorem lastCounted?_cons (count : Nat) (now : Instant) (records : List (Nat × Instant)) :
    lastCounted? ((count, now) :: records) =
      (lastCounted? records).or (if count = 0 then none else some now) := by
  unfold lastCounted?
  by_cases h : count = 0
  · rw [List.filter_cons_of_neg (by simp [h]), if_pos h, Option.or_none]
  · rw [List.filter_cons_of_pos (by simp [h]), if_neg h, List.getLast?_cons]
    cases (records.filter (·.1 != 0)).getLast? <;> rfl

/-- **Records add up**, and the last one that counted something says when.  The
induction is on the records; it is about counters alone, so it serves both
stores. -/
theorem Counter.recordAll_eq {τ : Type} (cell : Instant → τ) (k : Counter τ)
    (records : List (Nat × Instant)) :
    k.recordAll cell records = ⟨k.times + ((records.map (·.1)).sum : Nat),
      ((lastCounted? records).map cell).or k.last⟩ := by
  induction records generalizing k with
  | nil => exact congrArg (Counter.mk · k.last) (Int.add_zero _).symm
  | cons e records ih =>
    obtain ⟨count, now⟩ := e
    rw [recordAll, List.foldl_cons, ← recordAll, ih, lastCounted?_cons, List.map_cons,
      List.sum_cons]
    unfold record
    by_cases h : count = 0
    · rw [if_pos h, if_pos h, Option.or_none, h, Nat.zero_add]
    · rw [if_neg h, if_neg h, Int.natCast_add, ← Int.add_assoc]
      cases lastCounted? records <;> rfl

/-! ### Stores that keep them -/

/-- What a call records for a rule: a number of applications and their time, if
it is a call of `record_rule_applications` for that rule. -/
def Call.recordFor? (id : Id) : Call → Option (Nat × Instant)
  | .recordApplications rule count now => if rule = id then some (count, now) else none
  | _ => none

/-- Only calls on the rules record something. -/
theorem Call.recordFor?_eq_none {id : Id} {c : Call} (h : c.table? ≠ some .rules) :
    c.recordFor? id = none := by
  cases c with
  | recordApplications rule count now => exact absurd rfl h
  | _ => rfl

/-- A record of applications records them for the rule that it names. -/
theorem Call.toList_recordFor? {id rule : Id} {count : Nat} {now : Instant} :
    ((recordApplications rule count now).recordFor? id).toList =
      if rule = id then [(count, now)] else [] := by
  show (if rule = id then some (count, now) else none).toList = _
  split <;> rfl

namespace Store

variable {σ : Type} [Store σ]

/-- What a call adds to the records for a rule: nothing if it fails, and nothing
if it is no record of applications. -/
def recordedBy (id : Id) (c : Call) (s : σ) : List (Nat × Instant) :=
  if (Store.answer c s).1.isOk then (c.recordFor? id).toList else []

/-- What calls record for a rule, in their order. -/
def recorded (id : Id) : List Call → σ → List (Nat × Instant)
  | [], _ => []
  | c :: calls, s => recordedBy id c s ++ recorded id calls (Store.answer c s).2

end Store

/-- A store keeps counters: rules bring them in, and only records for a rule
change its counter.  Both stores do, with times kept in different forms. -/
structure KeepsCounters (σ τ : Type) [Store σ] where
  /-- The counter of the rule of a user with an identifier. -/
  counter? : σ → String → Id → Option (Counter τ)
  /-- How a time is kept. -/
  cell : Instant → τ
  /-- What has to hold of the store for it. -/
  Sound : σ → Prop
  sound_answer : ∀ (c : Call) {s : σ}, Sound s → Sound (Store.answer c s).2
  insert : ∀ {r : Rule} {s s' : σ}, Store.answer (.insertRule r) s = (.ok (), s') →
    counter? s' r.user r.id = some ⟨r.timesApplied, r.lastAppliedAt.map cell⟩
  step : ∀ {c : Call} {s : σ} {user : String} {id : Id} {k : Counter τ}, Sound s →
    counter? s user id = some k → c ≠ .deleteRule user id →
      counter? (Store.answer c s).2 user id = some (k.recordAll cell (Store.recordedBy id c s))

namespace KeepsCounters

variable {σ τ : Type} [Store σ] (K : KeepsCounters σ τ)

/-- Calls that do not delete the rule leave its counter with what they record
for it. -/
theorem after {calls : List Call} {s : σ} {user : String} {id : Id} {k : Counter τ}
    (hs : K.Sound s) (hk : K.counter? s user id = some k)
    (hkeep : ∀ c ∈ calls, c ≠ .deleteRule user id) :
    K.counter? (Store.after calls s) user id =
      some (k.recordAll K.cell (Store.recorded id calls s)) := by
  induction calls generalizing s k with
  | nil => exact hk
  | cons c calls ih =>
    obtain ⟨hc, hcalls⟩ := List.forall_mem_cons.1 hkeep
    rw [Store.after, ih (K.sound_answer c hs) (K.step hs hk hc) hcalls, Store.recorded,
      Counter.recordAll_append]

/-- **A rule that is inserted and not deleted** has been applied as often as it
was at its insertion and was recorded since, and for the last time when the last
record says. -/
theorem after_insert {calls : List Call} {s s' : σ} {r : Rule} (hs : K.Sound s)
    (hr : Store.answer (.insertRule r) s = (.ok (), s'))
    (hkeep : ∀ c ∈ calls, c ≠ .deleteRule r.user r.id) :
    K.counter? (Store.after calls s') r.user r.id =
      some ⟨r.timesApplied + (((Store.recorded r.id calls s').map (·.1)).sum : Nat),
        ((lastCounted? (Store.recorded r.id calls s')).or r.lastAppliedAt).map K.cell⟩ := by
  have hs' : K.Sound s' := by
    have := K.sound_answer (.insertRule r) hs
    rwa [hr] at this
  rw [K.after hs' (K.insert hr) hkeep, Counter.recordAll_eq]
  cases lastCounted? (Store.recorded r.id calls s') <;> rfl

end KeepsCounters

/-! ### The store of records -/

namespace Memory

variable {m m' : Memory}

/-- The counter of the rule of a user with an identifier. -/
def counter? (m : Memory) (user : String) (id : Id) : Option (Counter Instant) :=
  (m.rule? user id).map fun r => ⟨r.timesApplied, r.lastAppliedAt⟩

/-- A rule that is inserted is found with its counter. -/
theorem counter?_insertRule {r : Rule} (h : m.answer (.insertRule r) = (.ok (), m')) :
    m'.counter? r.user r.id = some ⟨r.timesApplied, r.lastAppliedAt⟩ := by
  have hw := m.wrote_answer (.insertRule r)
  rw [h] at hw
  cases hw with
  | read hreads => cases hreads
  | ruleAdded hnew =>
    have hfound : ({ m with rules := m.rules ++ [r] } : Memory).rule? r.user r.id = some r :=
      find?_append_new (fun s hs => by simp [hnew s hs]) (by simp)
    unfold counter?
    rw [hfound]
    rfl

/-- A change to the rule with an identifier is seen where that rule is found, if
the change leaves alone what rules are found by. -/
theorem rule?_modifyFirst (hd : m.DistinctRules) (test : Rule → Bool) (change : Rule → Rule)
    {target : Id} (htest : ∀ r, test r = true → r.id = target)
    (hsame : ∀ r, test r = true → (change r).id = r.id ∧ (change r).user = r.user)
    {user : String} {id : Id} {r : Rule} (hr : m.rule? user id = some r) :
    ({ m with rules := modifyFirst test change m.rules } : Memory).rule? user id =
      some (if test r then change r else r) := by
  have hmap := modifyFirst_eq_map change htest hd
  unfold rule? at hr ⊢
  dsimp only
  rw [hmap]
  refine find?_map_of_some hr fun s => ?_
  split
  · rename_i hs
    rw [(hsame s hs).1, (hsame s hs).2]
  · rfl

/-- A call that does not delete a rule leaves its counter with what the call
records. -/
theorem Wrote.counter? {c : Call} {ok : Bool} (h : m.Wrote c ok m') (hd : m.DistinctRules)
    {user : String} {id : Id} {k : Counter Instant} (hk : m.counter? user id = some k)
    (hc : c ≠ .deleteRule user id) : m'.counter? user id =
      some (k.recordAll (fun t => t) (if ok then (c.recordFor? id).toList else [])) := by
  obtain ⟨r, hr, rfl⟩ := Option.map_eq_some_iff.1 hk
  obtain ⟨-, hid, -⟩ := rule?_mem hr
  cases h with
  | read hreads =>
    rw [Call.recordFor?_eq_none (by rw [hreads]; exact nofun), Option.toList_none, ite_self]
    exact hk
  | ruleAdded => exact congrArg _ (find?_append_of_some hr _)
  | @ruleReplaced new =>
    have hreplaced := rule?_modifyFirst hd (fun s => s.id == new.id && s.user == new.user)
      (·.replace new) (fun s hs => (Id.found_iff.1 hs).1)
      (fun s hs => ⟨(Id.found_iff.1 hs).1.symm, (Id.found_iff.1 hs).2.symm⟩) hr
    unfold Memory.counter?
    rw [hreplaced, Option.map_some]
    split <;> rfl
  | rulesDeleted owner other =>
    refine congrArg _ (find?_filter_of_some hr fun s hs => ?_)
    rw [Bool.not_eq_true', Bool.eq_false_iff]
    intro hdeleted
    obtain ⟨hsame, howner⟩ := Id.found_iff.1 hdeleted
    obtain ⟨hid, huser⟩ := Id.found_iff.1 hs
    exact hc (by rw [← hsame, ← howner, hid, huser])
  | ruleCounted rule count now =>
    rw [if_pos rfl, Call.toList_recordFor?, Counter.recordAll_ite]
    unfold Counter.record Memory.count
    by_cases hn : count = 0
    · rw [if_pos hn, if_pos hn, ite_self]
      exact hk
    · have hcounted := rule?_modifyFirst hd (fun x => x.id == rule) (·.applied count now)
        (fun s hs => beq_iff_eq.1 hs) (fun _ _ => ⟨rfl, rfl⟩) hr
      rw [if_neg hn, if_neg hn]
      unfold Memory.counter?
      rw [hcounted, Option.map_some]
      by_cases he : rule = id
      · rw [if_pos (beq_iff_eq.2 (hid.trans he.symm)), if_pos he]
        rfl
      · rw [if_neg fun h => he ((beq_iff_eq.1 h).symm.trans hid), if_neg he]
  | _ => exact hk

/-- A store of records whose rules have identifiers of their own keeps counters,
with times as they are. -/
def keepsCounters : KeepsCounters Memory Instant where
  counter? := counter?
  cell t := t
  Sound := DistinctRules
  sound_answer c s h := (s.wrote_answer c).distinctRules h
  insert h := by
    rw [counter?_insertRule h, Option.map_id']
  step hd hk hc := (wrote_answer _ _).counter? hd hk hc

end Memory

/-! ### The store of rows -/

namespace Database

variable {d d' : Database}

/-- The counter in the row of the rule of a user with an identifier. -/
def counter? (d : Database) (user : String) (id : Id) : Option (Counter TimeCell) :=
  (d.ruleRow? user id).map fun row => ⟨row.timesApplied, row.lastAppliedAt⟩

/-- How a time is kept in a row: in whole microseconds, what is finer is cut
off. -/
def timeCell (t : Instant) : TimeCell := .finite t.micros

/-- A rule that is inserted is found with its counter. -/
theorem counter?_insertRule {r : Rule} (h : d.answer (.insertRule r) = (.ok (), d')) :
    d'.counter? r.user r.id = some ⟨r.timesApplied, r.lastAppliedAt.map timeCell⟩ := by
  have hw := d.wrote_answer (.insertRule r)
  rw [h] at hw
  cases hw with
  | read hreads => cases hreads
  | ruleAdded hnew =>
    have hfound : ({ d with rules := d.rules ++ [.of r] } : Database).ruleRow? r.user r.id =
        some (.of r) := by
      refine find?_append_new (fun row hrow => ?_) (hits_iff.2 ⟨rfl, rfl⟩)
      exact Bool.eq_false_iff.2 fun hhit => hnew row hrow (hits_iff.1 hhit).1
    unfold counter?
    rw [hfound]
    rfl

/-- A change to rows is seen in the row that is found, if it leaves alone what
rows are found by. -/
theorem ruleRow?_map {change : RuleRow → RuleRow}
    (hsame : ∀ row, (change row).id = row.id ∧ (change row).user = row.user) {user : String}
    {id : Id} {row : RuleRow} (hr : d.ruleRow? user id = some row) :
    ({ d with rules := d.rules.map change } : Database).ruleRow? user id = some (change row) :=
  find?_map_of_some hr fun row => by rw [(hsame row).1, (hsame row).2]

/-- A call that does not delete a rule leaves its counter with what the call
records. -/
theorem Wrote.counter? {c : Call} {ok : Bool} (h : d.Wrote c ok d') {user : String} {id : Id}
    {k : Counter TimeCell} (hk : d.counter? user id = some k) (hc : c ≠ .deleteRule user id) :
    d'.counter? user id =
      some (k.recordAll timeCell (if ok then (c.recordFor? id).toList else [])) := by
  obtain ⟨row, hr, rfl⟩ := Option.map_eq_some_iff.1 hk
  have hhit := List.find?_some hr
  have hid : row.id = id.text := (hits_iff.1 hhit).1
  cases h with
  | read hreads =>
    rw [Call.recordFor?_eq_none (by rw [hreads]; exact nofun), Option.toList_none, ite_self]
    exact hk
  | ruleAdded => exact congrArg _ (find?_append_of_some hr _)
  | ruleReplaced new =>
    unfold Database.counter?
    rw [ruleRow?_map (fun row => by split <;> exact ⟨rfl, rfl⟩) hr, Option.map_some]
    split <;> rfl
  | rulesDeleted owner other =>
    refine congrArg _ (find?_filter_of_some hr fun row hrow => ?_)
    rw [Bool.not_eq_true', Bool.eq_false_iff]
    intro hdeleted
    obtain ⟨hsame, howner⟩ := hits_iff.1 hdeleted
    obtain ⟨hrowId, huser⟩ := hits_iff.1 hrow
    exact hc (by rw [Id.text_inj (hsame.symm.trans hrowId), howner.symm.trans huser])
  | noneCounted rule now =>
    rw [if_pos rfl, Call.toList_recordFor?, Counter.recordAll_ite]
    unfold Counter.record
    rw [if_pos rfl, ite_self]
    exact hk
  | @ruleCounted rule count now hcount =>
    rw [if_pos rfl, Call.toList_recordFor?, Counter.recordAll_ite]
    unfold Counter.record Database.counter?
    rw [if_neg hcount, ruleRow?_map (fun row => by split <;> exact ⟨rfl, rfl⟩) hr,
      Option.map_some]
    by_cases he : rule = id
    · rw [if_pos (beq_iff_eq.2 (by rw [hid, he])), if_pos he]
      rfl
    · rw [if_neg fun h => he (Id.text_inj ((beq_iff_eq.1 h).symm.trans hid)), if_neg he]
  | _ => exact hk

/-- Every store of rows keeps counters, with times in whole microseconds. -/
def keepsCounters : KeepsCounters Database TimeCell where
  counter? := counter?
  cell := timeCell
  Sound _ := True
  sound_answer _ _ _ := trivial
  insert := counter?_insertRule
  step _ hk hc := (wrote_answer _ _).counter? hk hc

end Database

/-! ### Both stores -/

/-- What calls make of an empty store of records has rules with identifiers of
their own, whatever the calls were. -/
theorem Memory.distinctRules_after (calls : List Call)
    (failing : List (Option Int64 × Option String)) :
    (Store.after calls ({ failing } : Memory)).DistinctRules :=
  Store.after_keeps (fun c _ m h => (m.wrote_answer c).distinctRules h) List.nodup_nil

/-- **No count is lost.** After a rule is inserted, calls come in any order,
each of which may succeed or fail, and the rules that are written may have been
read at any time; only the rule itself is not deleted.  It has then been applied
as often as it was at its insertion and as calls recorded for it since, and for
the last time at the time of the last record that counted something, or else
when it was at its insertion.  This is so in a store of records that calls led
to, and in every store of rows, whose cells have times in whole microseconds. -/
theorem counts_are_never_lost (before later : List Call) (r : Rule)
    (hkeep : ∀ c ∈ later, c ≠ .deleteRule r.user r.id) :
    (∀ (failing : List (Option Int64 × Option String)) (m : Memory),
      Store.answer (.insertRule r) (Store.after before ({ failing } : Memory)) = (.ok (), m) →
        ∃ r', (Store.after later m).rule? r.user r.id = some r' ∧
          r'.timesApplied =
            r.timesApplied + (((Store.recorded r.id later m).map (·.1)).sum : Nat) ∧
          r'.lastAppliedAt = (lastCounted? (Store.recorded r.id later m)).or r.lastAppliedAt) ∧
    (∀ d₀ d : Database, Store.answer (.insertRule r) d₀ = (.ok (), d) →
        ∃ row, (Store.after later d).ruleRow? r.user r.id = some row ∧
          row.timesApplied =
            r.timesApplied + (((Store.recorded r.id later d).map (·.1)).sum : Nat) ∧
          row.lastAppliedAt = ((lastCounted? (Store.recorded r.id later d)).or r.lastAppliedAt).map
            (fun t => .finite t.micros) ∧
          ∀ r', row.toRecord = .ok r' → r'.timesApplied = row.timesApplied ∧
            r'.lastAppliedAt =
              ((lastCounted? (Store.recorded r.id later d)).or r.lastAppliedAt).map
              Instant.cut) := by
  constructor
  · intro failing m hm
    have hdistinct := Memory.distinctRules_after before failing
    have hk := Memory.keepsCounters.after_insert hdistinct hm hkeep
    obtain ⟨r', hr', hcounter⟩ := Option.map_eq_some_iff.1 hk
    obtain ⟨htimes, hlast⟩ := Counter.mk.inj hcounter
    exact ⟨r', hr', htimes, hlast.trans Option.map_id'⟩
  · intro d₀ d hd
    have hk := Database.keepsCounters.after_insert trivial hd hkeep
    obtain ⟨row, hrow, hcounter⟩ := Option.map_eq_some_iff.1 hk
    obtain ⟨htimes, hlast⟩ := Counter.mk.inj hcounter
    exact ⟨row, hrow, htimes, hlast, fun r' hr' => RuleRow.usage_of_toRecord hlast hr'⟩

namespace Sample

/-- A rule that was applied three times. -/
def tallied : Rule :=
  { id := ⟨7#128⟩, user := "ana", name := "baker"
    conditions := ⟨.and, [.text .description (.contains "bakery") (some false)]⟩
    category := some 9, timesApplied := 3, createdAt := ⟨0, 0⟩, updatedAt := ⟨0, 0⟩ }

/-- Two applications are recorded, then the rule is written as it was read
before, and at last no application is recorded. -/
def tallies : List Call :=
  [.recordApplications ⟨7#128⟩ 2 ⟨10, 0⟩, .updateRule { tallied with name := "old baker" },
    .recordApplications ⟨7#128⟩ 0 ⟨20, 0⟩]

end Sample

/-- The write of the rule as it was read before loses no application:
`update_rule` of either store leaves the counters out. -/
theorem stale_write_loses_no_count :
    (∀ c ∈ Sample.tallies, c ≠ .deleteRule Sample.tallied.user Sample.tallied.id) ∧
      (∃ m r', Store.answer (.insertRule Sample.tallied) ({} : Memory) = (.ok (), m) ∧
        (Store.after Sample.tallies m).rule? "ana" ⟨7#128⟩ = some r' ∧ r'.timesApplied = 5 ∧
        r'.lastAppliedAt = some ⟨10, 0⟩) ∧
      ∃ d row, Store.answer (.insertRule Sample.tallied) ({} : Database) = (.ok (), d) ∧
        (Store.after Sample.tallies d).ruleRow? "ana" ⟨7#128⟩ = some row ∧ row.timesApplied = 5 ∧
        row.lastAppliedAt = some (.finite 10000000) := by
  have hkeep : ∀ c ∈ Sample.tallies, c ≠ .deleteRule Sample.tallied.user Sample.tallied.id := by
    intro c hc
    simp only [Sample.tallies, List.mem_cons, List.not_mem_nil, or_false] at hc
    rcases hc with rfl | rfl | rfl <;> exact nofun
  obtain ⟨hmemory, hdatabase⟩ := counts_are_never_lost [] Sample.tallies Sample.tallied hkeep
  refine ⟨hkeep, ?_, ?_⟩
  · obtain ⟨r', hr', htimes, hlast⟩ := hmemory [] _ rfl
    exact ⟨_, r', rfl, hr', htimes, hlast⟩
  · obtain ⟨row, hrow, htimes, hlast, -⟩ := hdatabase {} _ rfl
    exact ⟨_, row, rfl, hrow, htimes, hlast⟩

end LedgerRules
