/-
# Where a new rule goes

`RuleService.create_rule`, its step "without an explicit priority the rule goes
after the user's existing rules". The rule is given one past the greatest
priority of its user, and the sum is made in 32 bits.  As long as no rule of the
user has the greatest number there is, it is exact (`toInt_add_one`), so the new
rule comes last (`Memory.rulesOf_insert_last`).  After a rule that has it there
is no priority left (`Memory.nextPriority?_eq_none_iff`): the request breaks off
where the sum overflows, and the store is what it was.
-/

import LedgerRules.Proofs.Program.Reachable
import LedgerRules.Proofs.Store.Sorting

namespace LedgerRules

/-! ### The priority of a new rule -/

/-- One more is one more, save past the greatest number there is. -/
theorem toInt_add_one {p : Int32} (h : p ≠ Int32.maxValue) : (p + 1).toInt = p.toInt + 1 := by
  have hmax : p.toInt ≠ Int32.maxValue.toInt := fun he => h (Int32.toInt_inj.1 he)
  have hle := Int32.toInt_le p
  have hge := Int32.le_toInt p
  rw [Int32.toInt_maxValue] at hmax hle
  rw [Int32.toInt_add, show (1 : Int32).toInt = 1 from rfl, Int.bmod_eq_of_le] <;> omega

namespace Memory

variable {m : Memory} {user : String} {r : Rule}

/-- The greatest priority with one more rule behind: it only changes if that
rule has a greater one. -/
theorem maxPriority_concat (rules : List Rule) (r : Rule) :
    maxPriority (rules ++ [r]) = some (match maxPriority rules with
      | some p => if p < r.priority then r.priority else p
      | none => r.priority) := by
  unfold maxPriority
  rw [List.foldl_append]
  rfl

/-- The greatest priority is that of a rule, and no rule has a greater one. -/
theorem maxPriority_spec (rules : List Rule) :
    (rules = [] ∧ maxPriority rules = none) ∨ ∃ r ∈ rules, maxPriority rules = some r.priority ∧
      ∀ s ∈ rules, s.priority ≤ r.priority := by
  induction rules using List.reverseRecOn with
  | nil => exact .inl ⟨rfl, rfl⟩
  | append_singleton rules x ih =>
    right
    rw [maxPriority_concat]
    rcases ih with ⟨rfl, hnone⟩ | ⟨r, hr, hmax, hle⟩
    · rw [hnone]
      exact ⟨x, by simp⟩
    · rw [hmax]
      dsimp only
      split
      · rename_i hlt
        refine ⟨x, by simp, rfl, fun s hs => ?_⟩
        rcases List.mem_append.1 hs with hs | hs
        · exact Int32.le_of_lt (Int32.lt_of_le_of_lt (hle s hs) hlt)
        · rw [List.mem_singleton.1 hs]
          exact Int32.le_refl _
      · rename_i hlt
        refine ⟨r, List.mem_append_left _ hr, rfl, fun s hs => ?_⟩
        rcases List.mem_append.1 hs with hs | hs
        · exact hle s hs
        · rw [List.mem_singleton.1 hs]
          exact Int32.not_lt.1 hlt

/-- The listing of a user has the rules of that user. -/
theorem mem_rulesOf : r ∈ m.rulesOf user ↔ r ∈ m.rules ∧ r.user = user := by
  unfold rulesOf
  rw [List.mem_mergeSort, List.mem_filter, beq_iff_eq]

/-- The next priority is one past that of some rule that has the greatest, if 32
bits have room. -/
theorem nextPriority?_spec (m : Memory) (user : String) :
    (m.rulesOf user = [] ∧ m.nextPriority? user none = some 0) ∨
      ∃ r ∈ m.rulesOf user, (∀ s ∈ m.rulesOf user, s.priority ≤ r.priority) ∧
        m.nextPriority? user none =
          if r.priority = Int32.maxValue then none else some (r.priority + 1) := by
  unfold nextPriority? rulesOf
  simp only [List.mem_mergeSort]
  rcases maxPriority_spec (m.rules.filter (·.user == user)) with ⟨hnil, hnone⟩ | ⟨r, hr, hmax, hle⟩
  · rw [hnone, hnil]
    exact .inl ⟨List.mergeSort_nil, rfl⟩
  · rw [hmax]
    exact .inr ⟨r, hr, hle, rfl⟩

/-- **There is no next priority** if and only if a rule of the user has the
greatest number there is. -/
theorem nextPriority?_eq_none_iff : m.nextPriority? user none = none ↔
    ∃ r ∈ m.rulesOf user, r.priority = Int32.maxValue := by
  rcases nextPriority?_spec m user with ⟨hnil, hnext⟩ | ⟨s, hs, hle, hnext⟩
  · rw [hnext, hnil]
    simp
  · rw [hnext]
    constructor
    · intro h
      split at h
      · exact ⟨s, hs, ‹_›⟩
      · cases h
    · rintro ⟨r, hr, hmax⟩
      -- No number is past the greatest, so a rule with the greatest priority has it too.
      have hrs := Int32.le_iff_toInt_le.1 (hle r hr)
      rw [hmax] at hrs
      rw [if_pos (Int32.toInt_inj.1 (Int.le_antisymm (Int32.toInt_le _) hrs))]

section NextPriority

variable {p : Int32} (hp : m.nextPriority? user none = some p)
include hp

/-- The next priority is exactly one past that of every rule with the greatest. -/
theorem toInt_nextPriority? (hr : r ∈ m.rulesOf user)
    (hmax : ∀ s ∈ m.rulesOf user, s.priority ≤ r.priority) :
    p.toInt = r.priority.toInt + 1 := by
  rcases nextPriority?_spec m user with ⟨hnil, -⟩ | ⟨s, hs, hle, hnext⟩
  · rw [hnil] at hr
    cases hr
  · rw [hp] at hnext
    split at hnext
    · cases hnext
    · rename_i hroom
      have hsame : s.priority.toInt = r.priority.toInt := Int.le_antisymm
        (Int32.le_iff_toInt_le.1 (hmax s hs)) (Int32.le_iff_toInt_le.1 (hle r hr))
      rw [Option.some.inj hnext, toInt_add_one hroom, hsame]

/-- It is past the priorities of all rules of the user. -/
theorem lt_nextPriority? : ∀ r ∈ m.rulesOf user, r.priority < p := by
  intro r hr
  rcases nextPriority?_spec m user with ⟨hnil, -⟩ | ⟨s, hs, hle, -⟩
  · rw [hnil] at hr
    cases hr
  · have hrs := Int32.le_iff_toInt_le.1 (hle r hr)
    rw [Int32.lt_iff_toInt_lt, toInt_nextPriority? hp hs hle]
    omega

end NextPriority

/-! ### The place of a new rule -/

/-- **A rule past all others of its user comes last.** The rules of the user are
sorted, so one that is level with none of them has one place. -/
theorem rulesOf_insert_last {m' : Memory} {x : Rule} (hrules : m'.rules = m.rules ++ [x])
    (hx : x.user = user) (h : ∀ r ∈ m.rulesOf user, r.priority < x.priority) :
    m'.rulesOf user = m.rulesOf user ++ [x] := by
  have hself : [x].filter (·.user == user) = [x] := by
    rw [List.filter_singleton, beq_iff_eq.2 hx]
    rfl
  unfold rulesOf
  rw [hrules, List.filter_append, hself]
  exact mergeSort_concat_last Rule.precedes_trans Rule.precedes_total fun r hr =>
    Rule.precedes_of_lt (h r (List.mem_mergeSort.2 hr))

end Memory

namespace Action

variable {w : World Memory} {user : String}

/-- A result that is no error is a value, and the run is known by it. -/
theorem exists_ok {α : Type} {a : Action α} (h : (a.run w).1.isOk = true) :
    ∃ x, a.run w = (.ok x, (a.run w).2) := by
  generalize a.run w = p at h ⊢
  obtain ⟨r, w'⟩ := p
  cases r with
  | ok x => exact ⟨x, rfl⟩
  | error e => exact absurd h Bool.noConfusion

/-- A store of records lists every rule of a user. -/
theorem run_listRules (user : String) (w : World Memory) :
    (listRules user).run w = (.ok (w.store.rulesOf user), w) := rfl

/-- Without a backfill there is nothing left to do when a rule is stored. -/
theorem finishChange_without_backfill (rule : Rule) (includeManual : Bool) :
    finishChange user rule false includeManual = pure ⟨rule, none⟩ := rfl

/-- How a request for a new rule without a backfill ends: the rule that it makes
is put in behind the others, or there is an error.  The error is the breaking
off if and only if the request runs out of numbers, and that leaves the store
and the journal alone. -/
theorem createRule_ends {new : NewRule} {includeManual : Bool} (hb : new.backfill = false) :
    (createRule user new includeManual).Yields w fun r w' =>
      (∃ c change, r = .ok change ∧ Makes user new w c change.rule ∧
        w'.store.rules = w.store.rules ++ [change.rule]) ∨
      ∃ e, r = .error e ∧ (e = .overflow ↔ RunsOut user new w) ∧
        (e = .overflow → w'.store = w.store ∧ w'.journal = w.journal) := by
  refine createRule_yields (fun hout supply => ?_) (fun e w' _ hne hroom _ => ?_)
    fun c r w' hmakes hw => ?_
  · exact .inr ⟨_, rfl, iff_of_true rfl hout, fun _ => ⟨rfl, rfl⟩⟩
  · exact .inr ⟨e, rfl, iff_of_false hne hroom, fun h => absurd h hne⟩
  · rw [hb, finishChange_without_backfill, yields_pure]
    exact .inl ⟨c, ⟨r, none⟩, rfl, hmakes, by rw [hw]⟩

end Action

/-- **A new rule without a priority of its own runs last, or there is none.** If
the request succeeds, the priority of the new rule is one past the greatest of
the user, with nothing lost in 32 bits, so past those of all other rules of the
user; and the rules are listed as before with the new one behind them.  If the
body is accepted and a rule of the user has the greatest priority there is, and
only then, the sum overflows: the request breaks off, there is no new rule, and
neither the store nor the journal has changed. -/
theorem new_rule_runs_last_unless_out_of_numbers (w : World Memory) (user : String) (new : NewRule)
    (includeManual : Bool) (hp : new.priority = none) (hb : new.backfill = false) :
    ∃ before result w', (Action.listRules user).run w = (.ok before, w) ∧
      (Action.createRule user new includeManual).run w = (result, w') ∧
      (∀ change, result = .ok change →
        (∀ r ∈ before, r.priority < change.rule.priority) ∧
          (∀ r ∈ before, (∀ s ∈ before, s.priority ≤ r.priority) →
            change.rule.priority.toInt = r.priority.toInt + 1) ∧
          (Action.listRules user).run w' = (.ok (before ++ [change.rule]), w')) ∧
      (result = .error .overflow ↔
        (∃ c, Conditions.validate new.conditions = .accepted c) ∧
          ∃ r ∈ before, r.priority = Int32.maxValue) ∧
      (result = .error .overflow → w'.store = w.store ∧ w'.journal = w.journal) := by
  have hcreate : (Action.createRule user new includeManual).Yields w _ := Action.createRule_ends hb
  obtain ⟨result, w', hrun, hends⟩ := hcreate.exists_run
  have hout : Action.RunsOut user new w ↔
      (∃ c, Conditions.validate new.conditions = .accepted c) ∧
        ∃ r ∈ w.store.rulesOf user, r.priority = Int32.maxValue := by
    unfold Action.RunsOut
    rw [hp, Memory.nextPriority?_eq_none_iff]
  refine ⟨_, result, w', Action.run_listRules user w, hrun, ?_⟩
  rcases hends with ⟨c, change, rfl, hmakes, hrules⟩ | ⟨e, rfl, hover, hleft⟩
  · obtain ⟨priority, hnext, hrule⟩ := Option.map_eq_some_iff.1 hmakes.rule
    obtain rfl : change.rule.priority = priority := by rw [← hrule]; rfl
    rw [hp] at hnext
    refine ⟨fun x hx => ?_, iff_of_false nofun fun h => hmakes.not_runsOut (hout.2 h), nofun⟩
    obtain rfl := Except.ok.inj hx
    refine ⟨Memory.lt_nextPriority? hnext, fun r hr => Memory.toInt_nextPriority? hnext hr, ?_⟩
    rw [Action.run_listRules, Memory.rulesOf_insert_last hrules hmakes.owned.1
      (Memory.lt_nextPriority? hnext)]
  · refine ⟨nofun, ?_, fun h => hleft (Except.error.inj h)⟩
    rw [Except.error.injEq, hover, hout]

namespace Sample

/-- A rule that asks to run after all that will ever be. -/
def atTheEnd : Turn :=
  ⟨"ana", .createRule
    { name := "last", conditions := mentions "bakery", category := some 1
      priority := some Int32.maxValue }, false⟩

/-- A rule that asks for no place. -/
def anywhere : NewRule := { name := "next", conditions := mentions "bakery", category := some 2 }

/-- The world where ana has the rule at the end. -/
def ended : World Memory := atTheEnd.after world

/-- The world with the rule at the end is one that a run leads to. -/
theorem reachable_ended : Reachable ended := reachable_world.next atTheEnd

end Sample

/-- In a world that a run leads to, a new rule comes last; and once there is one
with the greatest priority, the same request breaks off. -/
theorem next_rule_last_and_then_none :
    (Reachable Sample.world ∧ ∃ before change w',
      (Action.createRule "ana" Sample.anywhere false).run Sample.world = (.ok change, w') ∧
        (Action.listRules "ana").run Sample.world = (.ok before, Sample.world) ∧ before ≠ [] ∧
          (Action.listRules "ana").run w' = (.ok (before ++ [change.rule]), w')) ∧
      Reachable Sample.ended ∧ ∃ w',
        (Action.createRule "ana" Sample.anywhere false).run Sample.ended = (.error .overflow, w') ∧
          w'.store = Sample.ended.store := by
  refine ⟨⟨Sample.reachable_world, ?_⟩, Sample.reachable_ended, ?_⟩
  · have hsome : ∃ r ∈ Sample.world.store.rules, r.user = "ana" := by decide +kernel
    obtain ⟨change, hcreate⟩ :=
      Action.exists_ok (a := Action.createRule "ana" Sample.anywhere false)
      (w := Sample.world) (by decide +kernel)
    obtain ⟨before, result, w', hbefore, hrun, hlast, -⟩ :=
      new_rule_runs_last_unless_out_of_numbers Sample.world "ana" Sample.anywhere false
        rfl rfl
    obtain ⟨rfl, rfl⟩ := Prod.mk.inj (hrun.symm.trans hcreate)
    obtain rfl : Sample.world.store.rulesOf "ana" = before := Except.ok.inj (Prod.mk.inj hbefore).1
    obtain ⟨r, hr, huser⟩ := hsome
    exact ⟨_, change, _, hcreate, hbefore, List.ne_nil_of_mem (Memory.mem_rulesOf.2 ⟨hr, huser⟩),
      (hlast change rfl).2.2⟩
  · have hfull : ∃ r ∈ Sample.ended.store.rules, r.user = "ana" ∧ r.priority = Int32.maxValue := by
      decide +kernel
    have hvalid : Conditions.validate Sample.anywhere.conditions =
        .accepted ⟨.and, [.text .description (.contains "bakery") (some false)]⟩ := by
      decide +kernel
    obtain ⟨before, result, w', hbefore, hrun, -, hover, hleft⟩ :=
      new_rule_runs_last_unless_out_of_numbers Sample.ended "ana" Sample.anywhere false
        rfl rfl
    obtain rfl : Sample.ended.store.rulesOf "ana" = before := Except.ok.inj (Prod.mk.inj hbefore).1
    obtain ⟨r, hr, huser, hmax⟩ := hfull
    obtain rfl := hover.2 ⟨⟨_, hvalid⟩, r, Memory.mem_rulesOf.2 ⟨hr, huser⟩, hmax⟩
    exact ⟨w', hrun, (hleft rfl).1⟩

end LedgerRules
