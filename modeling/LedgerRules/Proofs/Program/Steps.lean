/-
# What an operation can do to a store of records

`Memory.Step` lists every change that an operation can make: a record is put in,
changed in its place or taken out, rules are applied to one transaction, or a
bulk run is made.  Whatever an operation does, whether it succeeds or fails
halfway, is some of these steps one after the other (`Operation.takes_steps`),
so what each step keeps every operation keeps.
-/

import LedgerRules.Program.Operation
import LedgerRules.Proofs.Program.Application
import LedgerRules.Proofs.Program.Updating
import Mathlib.Logic.Relation

namespace LedgerRules

/-- The bulk run that an operation makes, if it makes one: the restriction, and
whether what was set by hand is touched. -/
def Operation.bulk? (backfillIncludesManual : Bool) : Operation → Option (Option (List Id) × Bool)
  | applyToExisting ids includeManual => some (ids, includeManual)
  | createRule new => if new.backfill then some (none, backfillIncludesManual) else none
  | updateRule _ update => if update.backfill then some (none, backfillIncludesManual) else none
  | _ => none

/-- The change of a rule that an operation asks for.  Switching a rule on or off
is an update that names its flag alone. -/
def Operation.ruleUpdate? : Operation → Option (Id × RuleUpdate)
  | updateRule id update => some (id, update)
  | setActive id active => some (id, { active := some active })
  | _ => none

/-- Whether an operation may apply rules to the transaction it is about.  A bulk
run is not one of these: it is about many. -/
def Operation.classifies : Operation → Bool
  | addTransaction _ => true
  | updateTransaction _ update => update.reapplies
  | applyToTransaction _ => true
  | _ => false

namespace Memory

/-- The priority of a new rule, as the store stands: the one that is asked for,
or one past the greatest.  There is none if the greatest is the last number of
32 bits; then the addition overflows and `create_rule` breaks off. -/
def nextPriority? (m : Memory) (user : String) (asked : Option Int32) : Option Int32 :=
  match asked, maxPriority (m.rules.filter (·.user == user)) with
  | some p, _ => some p
  | none, none => some 0
  | none, some greatest => if greatest = Int32.maxValue then none else some (greatest + 1)

end Memory

/-- The rule that a request makes of an accepted body, if there is a priority
for it: it takes the identifier that is drawn next, and the clock is read for
the times. -/
def World.newRule? (w : World Memory) (user : String) (new : NewRule) (conditions : Conditions) :
    Option Rule :=
  (w.store.nextPriority? user new.priority).map fun priority =>
    new.rule conditions w.supply.draw.1 user priority w.supply.draw.2.tick.1

namespace Memory

/-- One change that an operation of a user makes to a store.  There is one case
for each, with all that is checked before it; an operation makes some of them
and no others, whether it succeeds or fails. -/
inductive Step (backfillIncludesManual : Bool) (user : String) : Operation → Memory → Memory → Prop
  | enroll {m : Memory} {new : NewAccount} {id : Id} {now : Instant}
      (hc : (new.account id user now).complaint? = none) :
    Step backfillIncludesManual user (.addAccount new) m
      { m with accounts := m.accounts ++ [new.account id user now] }
  | enter {m : Memory} {new : NewTransaction} {account : Account} {id : Id} {today : Date}
      {now : Instant} (ha : m.account? user new.account = some account)
      (hid : ∀ t ∈ m.transactions, t.id ≠ id) :
    Step backfillIncludesManual user (.addTransaction new) m
      { m with transactions := m.transactions ++ [new.transaction account id user today now] }
  | edit {m : Memory} {id : Id} {update : TransactionUpdate} {old : Transaction} {now : Instant}
      (h : m.transaction? user id = some old) :
    Step backfillIncludesManual user (.updateTransaction id update) m
      { m with
        transactions := modifyFirst (fun x => x.id == id && x.user == user)
          (fun _ => { update.apply old with updatedAt := now }) m.transactions }
  | classify {m m' : Memory} {op : Operation} {id : Id} {r : Except Error Outcome}
      (hop : op.classifies = true) (h : m.Classifies user id r m') :
    Step backfillIncludesManual user op m m'
  | bulk {m m' : Memory} {op : Operation} {ids : Option (List Id)} {includeManual : Bool}
      {r : Except Error BulkSummary}
      (hop : op.bulk? backfillIncludesManual = some (ids, includeManual))
      (h : m.Reapplies user ids includeManual r m') :
    Step backfillIncludesManual user op m m'
  | create {m : Memory} {new : NewRule} {conditions : Conditions} {id : Id} {priority : Int32}
      {now : Instant} (hv : Conditions.validate new.conditions = .accepted conditions)
      (hp : m.nextPriority? user new.priority = some priority)
      (hc : (new.rule conditions id user priority now).complaint? = none)
      (hid : ∀ r ∈ m.rules, r.id ≠ id) :
    Step backfillIncludesManual user (.createRule new) m
      { m with rules := m.rules ++ [new.rule conditions id user priority now] }
  | change {m : Memory} {op : Operation} {id : Id} {update : RuleUpdate} {old : Rule}
      {conditions : Option Conditions} {now : Instant} (hop : op.ruleUpdate? = some (id, update))
      (h : m.rule? user id = some old)
      (hv : update.conditions.map Conditions.validate = conditions.map .accepted)
      (hc : (update.apply conditions old).complaint? = none) :
    Step backfillIncludesManual user op m
      { m with
        rules := modifyFirst (fun x => x.id == id && x.user == user)
          (·.replace { update.apply conditions old with updatedAt := now }) m.rules }
  | delete {m : Memory} {id : Id} :
    Step backfillIncludesManual user (.deleteRule id) m
      { m with rules := m.rules.filter fun r => !(r.id == id && r.user == user) }

end Memory

namespace Action

variable {α β : Type} {S : Memory → Memory → Prop}

/-- Whatever an action does to the store is made of some steps.  So what each
step preserves is preserved by the action. -/
def Takes (a : Action α) (S : Memory → Memory → Prop) : Prop :=
  ∀ w : World Memory, a.Yields w fun _ w' => Relation.ReflTransGen S w.store w'.store

/-- An action that leaves the store alone takes no step. -/
theorem takes_of_store {a : Action α}
    (h : ∀ w : World Memory, a.Yields w fun _ w' => w'.store = w.store) : a.Takes S := by
  refine fun w => (h w).mono fun _ w' hw => ?_
  rw [hw]

/-- A call that reads takes no step. -/
theorem takes_read {c : Call} (h : ∀ m, (Memory.answer c m).2 = m) : (call c).Takes S :=
  takes_of_store fun w => h w.store

/-- An action that takes at most one step. -/
theorem takes_of_step {a : Action α}
    (h : ∀ w : World Memory, a.Yields w fun _ w' => S w.store w'.store) : a.Takes S :=
  fun w => (h w).mono fun _ _ hw => .single hw

/-- An action that only answers takes no step. -/
theorem takes_pure (x : α) : (pure x : Action α).Takes S := fun _ => .refl

/-- Nor does one that fails. -/
theorem takes_throw (e : Error) : (throw e : Action α).Takes S := fun _ => .refl

/-- The steps of an action that goes on are those of its parts. -/
theorem Takes.bind {a : Action α} {f : α → Action β} (ha : a.Takes S)
    (hf : ∀ x, (f x).Takes S) : (a >>= f).Takes S := by
  intro w
  rw [yields_bind]
  refine (ha w).mono fun r w' h => ?_
  cases r with
  | ok x => exact (hf x w').mono fun _ _ h' => h.trans h'
  | error e => exact h

/-- What is made of the answer takes no step. -/
theorem Takes.map {a : Action α} (ha : a.Takes S) (f : α → β) : (f <$> a).Takes S := by
  intro w
  rw [yields_map]
  exact ha w

/-- A step, and then the steps of what follows. -/
theorem Takes.after {a : Action α} (ha : a.Takes S) {m : Memory} {w : World Memory}
    (h : S m w.store) : a.Yields w fun _ w' => Relation.ReflTransGen S m w'.store :=
  (ha w).mono fun _ _ h' => .head h h'

variable {backfillIncludesManual : Bool} {user : String} {op : Operation}

/-! ### Applying rules -/

/-- Applying rules to a transaction takes one step at most: the grouped write of
what they propose, with its counts. -/
theorem takes_applyToTransaction (hop : op.classifies = true) (id : Id) :
    (applyToTransaction user id).Takes (Memory.Step backfillIncludesManual user op) :=
  takes_of_step fun w => (applyToTransaction_yields user id w).mono fun _ _ h => .classify hop h

/-- A bulk run takes one step: all of its groups together. -/
theorem takes_applyToExisting {ids : Option (List Id)} {includeManual : Bool}
    (hop : op.bulk? backfillIncludesManual = some (ids, includeManual)) :
    (applyToExisting user ids includeManual).Takes (Memory.Step backfillIncludesManual user op) :=
  takes_of_step fun w =>
    (applyToExisting_yields user ids includeManual w).mono fun _ _ h => .bulk hop h

/-! ### Accounts and transactions -/

/-- Recording an account takes one step, or none if it is refused. -/
theorem takes_addAccount (new : NewAccount) :
    (addAccount user new).Takes (Memory.Step backfillIncludesManual user (.addAccount new)) := by
  intro w
  unfold addAccount
  rw [yields_bind, yields_freshId, goes_ok, yields_bind, yields_now, goes_ok, yields_bind,
    yields_refuse]
  split
  · exact .refl
  · rename_i hc
    rw [goes_ok, yields_bind, yields_insertAccount, goes_ok]
    exact .single (.enroll hc)

/-- Reading a transaction takes no step. -/
theorem takes_getTransaction (id : Id) : (getTransaction user id).Takes S := by
  refine Takes.bind (takes_read fun _ => rfl) fun t => ?_
  cases t with
  | none => exact takes_throw _
  | some t => exact takes_pure t

/-- Recording a transaction takes the step of its row, and then that of its
rules. -/
theorem takes_addTransaction (new : NewTransaction) :
    (addTransaction user new).Takes
      (Memory.Step backfillIncludesManual user (.addTransaction new)) := by
  intro w
  unfold addTransaction
  rw [yields_bind, yields_getAccount, goes_ok]
  cases ha : w.store.account? user new.account with
  | none => exact .refl
  | some account =>
    dsimp only
    rw [yields_bind, yields_now, goes_ok, yields_bind, yields_freshId, goes_ok, yields_bind,
      yields_now, goes_ok, yields_bind, yields_insertTransaction]
    split
    · exact .refl
    · rename_i hany
      rw [goes_ok]
      refine Takes.after ?_ (.enter ha fun t ht hid => hany ?_)
      · split
        · exact (takes_applyToTransaction rfl _).bind fun _ => takes_getTransaction _
        · exact takes_getTransaction _
      · exact List.any_eq_true.2 ⟨t, ht, beq_iff_eq.2 hid⟩

/-- Editing a transaction takes the step of its row, and then that of its rules. -/
theorem takes_updateTransaction (id : Id) (update : TransactionUpdate) :
    (updateTransaction user id update).Takes
      (Memory.Step backfillIncludesManual user (.updateTransaction id update)) := by
  intro w
  unfold updateTransaction
  rw [yields_bind]
  cases h : w.store.transaction? user id with
  | none =>
    rw [yields_transaction_of_none h]
    exact .refl
  | some old =>
    rw [yields_transaction_of_some h, goes_ok, yields_bind, yields_now, goes_ok, yields_bind]
    obtain ⟨-, rfl, rfl⟩ := Memory.transaction?_mem h
    refine (yields_updateTransaction ?_).2 ?_
    · exact Option.isSome_of_eq_some h
    rw [goes_ok]
    refine Takes.after (S := Memory.Step backfillIncludesManual old.user
      (.updateTransaction old.id update)) ?_ (.edit h)
    split
    · rename_i hc
      rw [Bool.and_eq_true] at hc
      have hop : (Operation.updateTransaction old.id update).classifies = true := hc.1
      exact (takes_applyToTransaction hop _).bind fun _ => takes_getTransaction _
    · exact takes_getTransaction _

/-! ### Rules -/

/-- Listing rules takes no step. -/
theorem takes_listRules : (listRules user).Takes S := by
  intro w
  unfold listRules noticeSkipped
  rw [yields_bind, yields_listRules, goes_ok, yields_bind]
  exact .refl

/-- Reading a rule takes no step. -/
theorem takes_getRule (id : Id) : (getRule user id).Takes S := by
  refine Takes.bind (takes_read fun _ => rfl) fun r => ?_
  cases r with
  | none => exact takes_throw _
  | some r => exact takes_pure r

/-- What follows a change of a rule are the steps of its backfill, or none. -/
theorem takes_finishChange {rule : Rule} {backfill includeManual : Bool}
    (hop : backfill = true → op.bulk? backfillIncludesManual = some (none, includeManual)) :
    (finishChange user rule backfill includeManual).Takes
      (Memory.Step backfillIncludesManual user op) := by
  unfold finishChange
  cases backfill with
  | false => exact takes_pure _
  | true =>
    refine Takes.bind (takes_applyToExisting (hop rfl)) fun _ => ?_
    exact Takes.bind (takes_read fun _ => rfl) fun _ => takes_pure _

/-- The priority of a new rule is as the store stands, and where there is none
the operation breaks off. -/
theorem yields_newPriority {w : World Memory} {asked : Option Int32}
    {Q : Except Error Int32 → World Memory → Prop} :
    (newPriority user asked).Yields w Q ↔
      Q ((w.store.nextPriority? user asked).elim (.error .overflow) .ok) w := by
  unfold newPriority Memory.nextPriority?
  cases asked with
  | some p => exact Iff.rfl
  | none =>
    dsimp only
    rw [yields_bind, yields_maxPriority, goes_ok]
    cases Memory.maxPriority _ with
    | none => exact Iff.rfl
    | some greatest =>
      dsimp only [onePast]
      split <;> exact Iff.rfl

/-- What a request for a new rule makes of its body and of the world it is
carried out in: the body is accepted, and there is a rule for it, with nothing
to complain of and a new identifier. -/
structure Makes (user : String) (new : NewRule) (w : World Memory) (c : Conditions) (r : Rule) :
    Prop where
  valid : Conditions.validate new.conditions = .accepted c
  rule : w.newRule? user new c = some r
  fine : r.complaint? = none
  fresh : ∀ x ∈ w.store.rules, x.id ≠ w.supply.draw.1

/-- A request for a new rule runs out of numbers: its body is accepted, but
there is no priority. -/
def RunsOut (user : String) (new : NewRule) (w : World Memory) : Prop :=
  (∃ c, Conditions.validate new.conditions = .accepted c) ∧
    w.store.nextPriority? user new.priority = none

/-- A request that makes a rule has a priority for it. -/
theorem Makes.not_runsOut {new : NewRule} {w : World Memory} {c : Conditions} {r : Rule}
    (h : Makes user new w c r) : ¬RunsOut user new w := by
  rintro ⟨-, hnone⟩
  obtain ⟨priority, hp, -⟩ := Option.map_eq_some_iff.1 h.rule
  cases hp.symm.trans hnone

/-- A request makes no rule but that of its accepted body. -/
theorem Makes.rule_eq {new : NewRule} {w : World Memory} {c c' : Conditions} {r r' : Rule}
    (h : Makes user new w c' r') (hv : Conditions.validate new.conditions = .accepted c)
    (hrule : w.newRule? user new c = some r) : r' = r := by
  obtain rfl : c = c' := Verdict.accepted.inj (hv.symm.trans h.valid)
  exact Option.some.inj (h.rule.symm.trans hrule)

/-- The rule that a request makes is one of its user, under the identifier that
is drawn. -/
theorem Makes.owned {new : NewRule} {w : World Memory} {c : Conditions} {r : Rule}
    (h : Makes user new w c r) : r.user = user ∧ r.id = w.supply.draw.1 := by
  obtain ⟨priority, -, rfl⟩ := Option.map_eq_some_iff.1 h.rule
  exact ⟨rfl, rfl⟩

/-- **A request for a new rule** puts in the rule that it makes, behind the
others, and goes on to the backfill.  If it makes none it fails and leaves the
store alone.  It breaks off if and only if it runs out of numbers, and then
nothing has happened but that the supply was used. -/
theorem createRule_yields {w : World Memory} {new : NewRule}
    {Q : Except Error RuleChange → World Memory → Prop}
    (hbreak : RunsOut user new w → ∀ supply, Q (.error .overflow) { w with supply })
    (hfail : ∀ e w', w'.store = w.store → e ≠ .overflow → ¬RunsOut user new w →
      (¬∃ c r, Makes user new w c r) → Q (.error e) w')
    (hput : ∀ c r w', Makes user new w c r →
      w'.store = { w.store with rules := w.store.rules ++ [r] } →
        (finishChange user r new.backfill backfillIncludesManual).Yields w' Q) :
    (createRule user new backfillIncludesManual).Yields w Q := by
  unfold createRule checkedConditions
  rw [yields_bind]
  cases hv : Conditions.validate new.conditions with
  | rejected faults =>
    refine hfail _ _ rfl nofun ?_ ?_
    · rintro ⟨⟨c, hc⟩, -⟩
      cases hv.symm.trans hc
    · rintro ⟨c, r, hmakes⟩
      cases hv.symm.trans hmakes.valid
  | accepted c =>
    dsimp only
    rw [yields_pure, goes_ok, yields_bind, yields_freshId, goes_ok, yields_bind, yields_now,
      goes_ok, yields_bind, yields_newPriority]
    cases hp : w.store.nextPriority? user new.priority with
    | none => exact hbreak ⟨⟨c, hv⟩, hp⟩ _
    | some priority =>
      have hroom : ¬RunsOut user new w := fun h => by cases hp.symm.trans h.2
      have hrule : w.newRule? user new c = some (new.rule c w.supply.draw.1 user priority
          w.supply.draw.2.tick.1) := congrArg (Option.map _) hp
      rw [Option.elim_some, goes_ok, yields_bind, yields_refuse]
      split
      · rename_i complaint hc
        refine hfail _ _ rfl nofun hroom ?_
        rintro ⟨c', r', hmakes⟩
        -- The rule that was complained of is the only one that the request may make.
        have hnone := hmakes.rule_eq hv hrule ▸ hmakes.fine
        cases hnone.symm.trans hc
      · rename_i hc
        rw [goes_ok, yields_bind, yields_insertRule]
        split
        · rename_i hany
          obtain ⟨r, hr, hid⟩ := List.any_eq_true.1 hany
          refine hfail _ _ rfl nofun hroom ?_
          rintro ⟨c', r', hmakes⟩
          exact hmakes.fresh r hr (beq_iff_eq.1 hid)
        · rename_i hany
          rw [goes_ok, yields_bind, yields_record, goes_ok]
          refine hput c _ _ ⟨hv, hrule, hc, fun r hr hid => hany ?_⟩ ?_
          · exact List.any_eq_true.2 ⟨r, hr, beq_iff_eq.2 hid⟩
          · rw [World.record_store, World.withStore_store]

/-- Creating a rule takes the step of the rule, and then that of a backfill; it
takes none if it breaks off or is refused. -/
theorem takes_createRule (new : NewRule) :
    (createRule user new backfillIncludesManual).Takes
      (Memory.Step backfillIncludesManual user (.createRule new)) := by
  intro w
  refine createRule_yields (fun _ _ => .refl) (fun _ w' hw _ _ _ => ?_) fun c r w' hmakes hw => ?_
  · rw [hw]
  · obtain ⟨hv, hrule, hc, hid⟩ := hmakes
    obtain ⟨priority, hp, rfl⟩ := Option.map_eq_some_iff.1 hrule
    refine Takes.after (S := Memory.Step backfillIncludesManual user (.createRule new))
      (takes_finishChange fun hb => if_pos hb) ?_
    rw [hw]
    exact .create hv hp hc hid

/-- The conditions of an update that names them are those of its body. -/
theorem checkedConditions_yields {w : World Memory} (body : Json) :
    (checkedConditions body).Yields w fun r w' => w' = w ∧
      ∀ c, r = .ok c → Conditions.validate body = .accepted c := by
  unfold checkedConditions
  cases Conditions.validate body with
  | rejected faults => exact ⟨rfl, nofun⟩
  | accepted c => exact ⟨rfl, fun c' h => by rw [Except.ok.inj h]⟩

/-- Once the conditions are known, a change is refused or stored, and then there
may be a backfill. -/
theorem storeRule_steps {w : World Memory} {id : Id} {update : RuleUpdate} {old : Rule}
    {conditions : Option Conditions} {includeManual : Bool} (h : w.store.rule? user id = some old)
    (hv : update.conditions.map Conditions.validate = conditions.map .accepted)
    (hop : op.ruleUpdate? = some (id, update))
    (hb : update.backfill = true → op.bulk? backfillIncludesManual = some (none, includeManual)) :
    (storeRule user (update.apply conditions old) update.backfill includeManual).Yields w
      fun _ w' =>
        Relation.ReflTransGen (Memory.Step backfillIncludesManual user op) w.store w'.store := by
  obtain ⟨-, rfl, rfl⟩ := Memory.rule?_mem h
  unfold storeRule
  rw [yields_bind, yields_refuse]
  split
  · exact .refl
  · rename_i hc
    rw [goes_ok, yields_bind, yields_now, goes_ok, yields_bind]
    refine (yields_updateRule ?_).2 ?_
    · exact Option.isSome_of_eq_some h
    rw [goes_ok, yields_bind, yields_record, goes_ok]
    refine Takes.after (S := Memory.Step backfillIncludesManual old.user op)
      (takes_finishChange hb) ?_
    rw [World.record_store, World.withStore_store]
    exact .change hop h hv hc

/-- Changing a rule takes the step of the rule, and then that of a backfill. -/
theorem takes_updateRule {id : Id} {update : RuleUpdate} {includeManual : Bool}
    (hop : op.ruleUpdate? = some (id, update))
    (hb : update.backfill = true → op.bulk? backfillIncludesManual = some (none, includeManual)) :
    (updateRule user id update includeManual).Takes
      (Memory.Step backfillIncludesManual user op) := by
  intro w
  rw [updateRule_eq, yields_bind]
  cases h : w.store.rule? user id with
  | none =>
    rw [yields_rule_of_none h]
    exact .refl
  | some old =>
    rw [yields_rule_of_some h, goes_ok]
    unfold changeRule
    split
    · rename_i body hu
      rw [yields_bind, yields_map]
      refine (checkedConditions_yields (w := w) body).mono fun r w' hr => ?_
      obtain ⟨rfl, hc⟩ := hr
      cases r with
      | error e => exact .refl
      | ok c =>
        have hv : update.conditions.map Conditions.validate = (some c).map .accepted := by
          rw [hu, Option.map_some, Option.map_some, hc c rfl]
        exact storeRule_steps h hv hop hb
    · rename_i hu
      rw [yields_bind, yields_pure, goes_ok]
      refine storeRule_steps h ?_ hop hb
      rw [hu]
      rfl

/-- Deleting a rule takes one step, or none if it is not there. -/
theorem takes_deleteRule (id : Id) :
    (deleteRule user id).Takes (Memory.Step backfillIncludesManual user (.deleteRule id)) := by
  intro w
  unfold deleteRule
  rw [yields_bind, yields_deleteRule, goes_ok]
  split
  · rw [yields_record, World.record_store, World.withStore_store]
    exact .single .delete
  · exact .single .delete

/-- **Whatever an operation does is made of its steps**, whether it succeeds or
fails.  An invariant of the steps is therefore one of all runs. -/
theorem takes_steps (backfillIncludesManual : Bool) (user : String) (op : Operation) :
    (op.action backfillIncludesManual user).Takes
      (Memory.Step backfillIncludesManual user op) := by
  cases op with
  | addAccount new => exact (takes_addAccount new).map _
  | listAccounts => exact Takes.map (takes_read fun _ => rfl) _
  | addTransaction new => exact (takes_addTransaction new).map _
  | updateTransaction id update => exact (takes_updateTransaction id update).map _
  | getTransaction id => exact (takes_getTransaction id).map _
  | listTransactions account limit => exact Takes.map (takes_read fun _ => rfl) _
  | createRule new => exact (takes_createRule new).map _
  | updateRule id update =>
    have hb : update.backfill = true →
        (Operation.updateRule id update).bulk? backfillIncludesManual =
          some (none, backfillIncludesManual) := fun hb => if_pos hb
    exact (takes_updateRule rfl hb).map _
  | setActive id active =>
    refine Takes.map (Takes.bind (takes_updateRule rfl ?_) fun _ => takes_pure _) _
    exact nofun
  | deleteRule id => exact (takes_deleteRule id).map _
  | getRule id => exact (takes_getRule id).map _
  | listRules => exact takes_listRules.map _
  | applyToTransaction id => exact (takes_applyToTransaction rfl id).map _
  | applyToExisting ids includeManual => exact (takes_applyToExisting rfl).map _

end Action
end LedgerRules
