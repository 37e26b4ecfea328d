/-
# A change of a rule is all or nothing

To create, to change, to switch or to delete a rule is to look whether that can
be done, and then to make one write.  Whatever is wrong is found before the
write, so an operation that fails leaves the store alone; and the write touches
one rule, because identifiers are distinct
(`Memory.DistinctRules.modifyFirst_replace`).

A backfill comes after that.  The rule has been stored as it would have been
without the backfill (`Action.createRule_eq`, `Action.updateRule_eq_backfill`),
and a bulk run succeeds whatever writes are made to fail, so the backfill takes
nothing back.
-/

import LedgerRules.Proofs.Program.Placement
import LedgerRules.Proofs.Program.RuleForm
import LedgerRules.Proofs.Program.SideBySide

namespace LedgerRules

/-! ### All or nothing -/

/-- What is done after one program and then another is done after the two of
them. -/
instance : LawfulMonad Program :=
  LawfulMonad.mk' Program
    (fun p => by
      induction p with
      | done _ => rfl
      | ask request next ih => exact congrArg (Program.ask request) (funext ih))
    (fun _ _ => rfl)
    (fun p f g => by
      induction p with
      | done _ => rfl
      | ask request next ih => exact congrArg (Program.ask request) (funext ih))

/-- An action succeeds exactly if it is allowed, and then something holds of its
answer and of the store after it.  Else it fails, and the store is what it was. -/
structure Action.AllOrNothing {α : Type} (a : Action α) (w : World Memory) (allowed : Prop)
    (Q : α → Memory → Prop) : Prop where
  all : allowed → ∃ x w', a.run w = (.ok x, w') ∧ Q x w'.store
  nothing : ¬allowed → ∃ e w', a.run w = (.error e, w') ∧ w'.store = w.store

/-- Of an action that may be followed by a backfill: it fails with it as it does
without it.  If it succeeds without it, a bulk run from there on succeeds too,
and the answer is the rule as it is in the store after that, which is the one
that was stored but for how often and when it was applied. -/
structure Action.StoresThenBackfills (user : String) (includeManual : Bool)
    (plain full : Action RuleChange) (w : World Memory) : Prop where
  failed : ∀ e w', plain.run w = (.error e, w') → full.run w = (.error e, w')
  done : ∀ change w₁, plain.run w = (.ok change, w₁) → ∃ summary stored w₂,
    (Action.applyToExisting user none includeManual).run w₁ = (.ok summary, w₂) ∧
      full.run w = (.ok ⟨stored, some summary⟩, w₂) ∧
      w₂.store.rule? user change.rule.id = some stored ∧ change.rule.SameButUsage stored

/-! ### The store after it -/

/-- The store with other rules, and all else as it was.  Every operation on
rules but its backfill leaves the store in this form. -/
def Memory.withRules (m : Memory) (rules : List Rule) : Memory := { m with rules }

/-- Rules with one in the place of that which has its identifier.  In a store
whose identifiers are distinct this is what an update writes. -/
def Rule.replaceIn (r : Rule) (rules : List Rule) : List Rule :=
  rules.map fun x => if x.id = r.id then r else x

/-- A rule after an update, whenever it was made.  Fields that are named have
what is requested for them, a body as it is accepted and in normal form; the
others have what they had, and so does what is no field of an update. -/
structure Rule.ChangedBy (r : Rule) (u : RuleUpdate) (r' : Rule) : Prop where
  version : r.IsVersion r'
  kept : ∀ f : RuleField, f.namedBy u = false → f.value r' = f.value r
  given : ∀ f : RuleField, f.namedBy u = true → f.requested u = some (f.value r')
  normal : ∀ body ∈ u.conditions, Conditions.validate body = .accepted r'.conditions ∧
    r'.conditions.normalize = r'.conditions

/-- What an update makes of a rule is the rule changed by it. -/
theorem RuleUpdate.changedBy_applied {u : RuleUpdate} (h : u.Acceptable) (r : Rule)
    (now : Instant) : r.ChangedBy u { u.applied r with updatedAt := now } where
  version := (Rule.isVersion_applied u r).trans ⟨rfl, rfl, rfl, rfl, rfl, rfl⟩
  kept f hf := by
    have hvalue := f.value_applied u r
    rw [← RuleField.isSome_requested h, Option.isSome_eq_false_iff, Option.isNone_iff_eq_none] at hf
    rw [hf, Option.getD_none] at hvalue
    cases f <;> exact hvalue
  given f hf := by
    have hvalue := f.value_applied u r
    rw [← RuleField.isSome_requested h] at hf
    obtain ⟨v, hv⟩ := Option.isSome_iff_exists.1 hf
    rw [hv, Option.getD_some] at hvalue
    rw [hv, ← hvalue]
    cases f <;> rfl
  normal body hbody := by
    obtain ⟨c, hc⟩ := h body hbody
    have hrequested : RuleField.conditions.requested u = some c := by
      show u.conditions.bind (fun body => (Conditions.validate body).conditions?) = some c
      rw [Option.mem_def.1 hbody, Option.bind_some, hc]
      rfl
    have hvalue := RuleField.conditions.value_applied u r
    rw [hrequested, Option.getD_some] at hvalue
    rw [show ({ u.applied r with updatedAt := now } : Rule).conditions = c from hvalue]
    exact ⟨hc, (Conditions.wellFormed_of_accepted hc).normal⟩

/-- A version has been applied as often as the rule, so nothing is merged into
it. -/
theorem Rule.IsVersion.replace_eq {r r' : Rule} (h : r.IsVersion r') : r.replace r' = r' := by
  unfold Rule.replace
  rw [← h.timesApplied, ← h.lastAppliedAt]

namespace Memory

variable {m m' : Memory} {user : String} {id : Id} {old r : Rule}

/-- **A version that is written over a rule replaces it and no other.** The
first one that is found is the only one. -/
theorem DistinctRules.modifyFirst_replace (hd : m.DistinctRules)
    (h : m.rule? old.user old.id = some old) (hr : old.IsVersion r) :
    modifyFirst (fun x => x.id == r.id && x.user == r.user) (·.replace r) m.rules =
      r.replaceIn m.rules := by
  have hkey : ∀ x : Rule, (x.id == r.id && x.user == r.user) = true → x.id = r.id :=
    fun x hx => (Id.found_iff.1 hx).1
  refine (modifyFirst_eq_map _ hkey hd).trans (List.map_congr_left fun x hx => ?_)
  by_cases he : x.id = r.id
  · obtain rfl : x = old :=
      List.inj_on_of_nodup_map hd hx (rule?_mem h).1 (he.trans hr.id)
    rw [if_pos he, if_pos (Id.found_iff.2 ⟨he, hr.user.symm⟩)]
    exact hr.replace_eq
  · rw [if_neg he, if_neg fun h => he (hkey x h)]

/-- The rule that was put in the place of another is the one that has its
identifier. -/
theorem DistinctRules.rule?_replaceIn (hd : m.DistinctRules)
    (h : m.rule? old.user old.id = some old) (hr : old.IsVersion r) :
    (m.withRules (r.replaceIn m.rules)).rule? old.user old.id = some r := by
  rw [← hd.modifyFirst_replace h hr]
  rw [← hr.id, ← hr.user] at h ⊢
  refine (find?_modifyFirst h ?_).trans (congrArg some hr.replace_eq)
  rw [hr.replace_eq, beq_self_eq_true, beq_self_eq_true]
  rfl

/-- A rule with a new identifier that was put behind the others is the one that
has it. -/
theorem rule?_append (hid : ∀ s ∈ m.rules, s.id ≠ r.id) :
    (m.withRules (m.rules ++ [r])).rule? r.user r.id = some r := by
  refine find?_append_new (fun s hs => ?_) ?_
  · rw [beq_false_of_ne (hid s hs), Bool.false_and]
  · rw [beq_self_eq_true, beq_self_eq_true]
    rfl

/-- A rule is found again where rules differ in how often and when they were
applied. -/
theorem rule?_of_sameButUsage (h : List.Forall₂ Rule.SameButUsage m.rules m'.rules)
    (hr : m.rule? user id = some r) : ∃ r', m'.rule? user id = some r' ∧ r.SameButUsage r' := by
  have hrel := find?_of_forall₂ (p := fun x : Rule => x.id == id && x.user == user)
    (q := fun x => x.id == id && x.user == user)
    (fun a b (hab : a.SameButUsage b) => by rw [hab]) h
  unfold rule? at hr ⊢
  rw [hr] at hrel
  generalize m'.rules.find? _ = found at hrel ⊢
  cases hrel with
  | some h => exact ⟨_, rfl, h⟩

end Memory

/-! ### The operations -/

namespace Action

variable {w : World Memory} {user : String} {id : Id}

/-- An action all of whose endings are allowed successes or forbidden failures
is all or nothing. -/
theorem AllOrNothing.of_yields {α : Type} {a : Action α} {allowed : Prop} {Q : α → Memory → Prop}
    (h : a.Yields w fun r w' =>
      (∃ x, r = .ok x ∧ allowed ∧ Q x w'.store) ∨
        ∃ e, r = .error e ∧ ¬allowed ∧ w'.store = w.store) : a.AllOrNothing w allowed Q := by
  obtain ⟨r, w', hrun, ⟨x, rfl, hallowed, hx⟩ | ⟨e, rfl, hnot, hstore⟩⟩ := h.exists_run
  · exact ⟨fun _ => ⟨x, w', hrun, hx⟩, fun hnot => absurd hallowed hnot⟩
  · exact ⟨fun hallowed => absurd hallowed hnot, fun _ => ⟨e, w', hrun, hstore⟩⟩

/-- With a backfill a rule is created as it is without, and then the backfill
runs.  So all that is shown of a creation without one holds up to that point. -/
theorem createRule_eq (user : String) (new : NewRule) (backfill includeManual : Bool) :
    createRule user { new with backfill } includeManual =
      createRule user { new with backfill := false } includeManual >>= fun change =>
        finishChange user change.rule backfill includeManual := by
  unfold createRule
  simp only [bind_assoc, finishChange_without_backfill, pure_bind]
  rfl

/-- So it is when a rule is changed. -/
theorem updateRule_eq_backfill (user : String) (id : Id) (update : RuleUpdate)
    (backfill includeManual : Bool) :
    updateRule user id { update with backfill } includeManual =
      updateRule user id { update with backfill := false } includeManual >>= fun change =>
        finishChange user change.rule backfill includeManual := by
  obtain ⟨name, conditions, category, merchant, active, priority, -⟩ := update
  unfold updateRule
  cases conditions <;>
    simp only [bind_assoc, finishChange_without_backfill, pure_bind] <;> rfl

/-- What follows without a backfill and what follows with one. -/
theorem storesThenBackfills {w : World Memory} {plain : Action RuleChange} {includeManual : Bool}
    (hplain : ∀ change w₁, plain.run w = (.ok change, w₁) →
      w₁.store.rule? user change.rule.id = some change.rule) :
    StoresThenBackfills user includeManual plain
      (plain >>= fun change => finishChange user change.rule true includeManual) w where
  failed e w' hrun := run_bind_error hrun _
  done change w₁ hrun := by
    obtain ⟨r, w₂, hbulk, hreapplies⟩ :=
      (applyToExisting_yields user none includeManual w₁).exists_run
    obtain ⟨summary, rfl⟩ := hreapplies.ok
    obtain ⟨stored, hstored, hsame⟩ :=
      Memory.rule?_of_sameButUsage hreapplies.frame.2.2 (hplain change w₁ hrun)
    refine ⟨summary, stored, w₂, hbulk, ?_, hstored, hsame⟩
    rw [run_bind_ok hrun]
    unfold finishChange
    rw [Bool.not_true, if_neg Bool.false_ne_true, run_bind_ok hbulk]
    show (Except.ok (⟨(w₂.store.rule? user change.rule.id).getD change.rule, some summary⟩ :
      RuleChange), w₂) = _
    rw [hstored, Option.getD_some]

/-- A rule that is created without a backfill is put behind the others, and
nothing else happens. -/
theorem createRule_allOrNothing {new : NewRule} (hb : new.backfill = false) (user : String)
    (includeManual : Bool) (w : World Memory) :
    (createRule user new includeManual).AllOrNothing w (∃ c r, Makes user new w c r)
      fun change m => ∃ c, Makes user new w c change.rule ∧ change.backfill = none ∧
        m = w.store.withRules (w.store.rules ++ [change.rule]) ∧
        m.rule? user change.rule.id = some change.rule := by
  refine .of_yields (createRule_yields (fun hout _ => ?_) (fun e w' hstore _ _ hnot => ?_)
    fun c r w' hmakes hstore => ?_)
  · refine .inr ⟨.overflow, rfl, ?_, rfl⟩
    rintro ⟨c, r, hmakes⟩
    exact hmakes.not_runsOut hout
  · exact .inr ⟨e, rfl, hnot, hstore⟩
  · rw [hb, finishChange_without_backfill, yields_pure]
    refine .inl ⟨⟨r, none⟩, rfl, ⟨c, r, hmakes⟩, c, hmakes, rfl, hstore, ?_⟩
    rw [hstore]
    obtain ⟨huser, hid⟩ := hmakes.owned
    rw [← huser]
    exact Memory.rule?_append fun x hx => hid ▸ hmakes.fresh x hx

/-- An update that has worked out the rule is refused, or the rule is written. -/
theorem storeRule_yields {old rule : Rule} {includeManual : Bool}
    {Q : Except Error RuleChange → World Memory → Prop} (hd : w.store.DistinctRules)
    (h : w.store.rule? old.user old.id = some old) (hr : old.IsVersion rule)
    (hfail : ∀ c, rule.complaint? = some c → Q (.error (.invalid c)) w)
    (hput : rule.complaint? = none → ∀ now w', w'.store = w.store.withRules
      (({ rule with updatedAt := now } : Rule).replaceIn w.store.rules) →
        Q (.ok ⟨{ rule with updatedAt := now }, none⟩) w') :
    (storeRule old.user rule false includeManual).Yields w Q := by
  unfold storeRule
  rw [yields_bind, yields_refuse]
  split
  · rename_i c hc
    exact hfail c hc
  · rename_i hc
    have hnow : ∀ now, old.IsVersion { rule with updatedAt := now } := fun now =>
      hr.trans ⟨rfl, rfl, rfl, rfl, rfl, rfl⟩
    rw [goes_ok, yields_bind, yields_now, goes_ok, yields_bind]
    refine (yields_updateRule ?_).2 ?_
    · exact Option.isSome_of_eq_some (by rwa [hr.id, hr.user])
    rw [goes_ok, yields_bind, yields_record, goes_ok, finishChange_without_backfill, yields_pure]
    refine hput hc _ _ ?_
    rw [World.record_store, World.withStore_store]
    exact congrArg w.store.withRules (hd.modifyFirst_replace h (hnow _))

/-- A rule that is changed without a backfill is replaced, and nothing else
happens. -/
theorem updateRule_allOrNothing (hd : w.store.DistinctRules) {update : RuleUpdate}
    (hb : update.backfill = false) (user : String) (id : Id) (includeManual : Bool) :
    (updateRule user id update includeManual).AllOrNothing w
      (∃ old, w.store.rule? user id = some old ∧ update.Acceptable ∧
        (update.applied old).complaint? = none)
      fun change m => ∃ old, w.store.rule? user id = some old ∧
        old.ChangedBy update change.rule ∧ change.backfill = none ∧
        m = w.store.withRules (change.rule.replaceIn w.store.rules) ∧
        m.rule? user id = some change.rule := by
  refine .of_yields ?_
  rw [updateRule_eq, yields_bind]
  cases h : w.store.rule? user id with
  | none =>
    rw [yields_rule_of_none h]
    refine .inr ⟨_, rfl, ?_, rfl⟩
    rintro ⟨old, hold, -⟩
    cases hold
  | some old =>
    rw [yields_rule_of_some h, goes_ok]
    obtain ⟨-, rfl, rfl⟩ := Memory.rule?_mem h
    have hsame : ∀ {old'}, some old = some old' → old' = old := fun h => (Option.some.inj h).symm
    obtain ⟨hnot, e, he⟩ | ⟨haccepted, he⟩ :=
      changeRule_cases old.user update includeManual old
    · rw [he, yields_throw]
      exact .inr ⟨e, rfl, fun ⟨_, _, haccepted, _⟩ => hnot haccepted, rfl⟩
    · rw [he, hb]
      refine storeRule_yields hd h (Rule.isVersion_applied _ _) (fun c hc => ?_)
        fun hc now w' hstore => ?_
      · refine .inr ⟨_, rfl, ?_, rfl⟩
        rintro ⟨old', hold, -, hnone⟩
        obtain rfl := hsame hold
        cases hnone.symm.trans hc
      · have hchanged := RuleUpdate.changedBy_applied haccepted old now
        refine .inl ⟨_, rfl, ⟨old, rfl, haccepted, hc⟩, old, rfl, hchanged, rfl, hstore, ?_⟩
        rw [hstore]
        exact hd.rule?_replaceIn h hchanged.version

/-- What holds of an action that succeeded. -/
theorem AllOrNothing.of_run {α : Type} {a : Action α} {allowed : Prop} {Q : α → Memory → Prop}
    (h : a.AllOrNothing w allowed Q) {x : α} {w' : World Memory} (hrun : a.run w = (.ok x, w')) :
    Q x w'.store := by
  by_cases hallowed : allowed
  · obtain ⟨x', w₁, hrun', hx⟩ := h.all hallowed
    rw [hrun] at hrun'
    cases hrun'
    exact hx
  · obtain ⟨e, w₁, hrun', -⟩ := h.nothing hallowed
    rw [hrun] at hrun'
    cases hrun'

/-- What is allowed may be stated in another way. -/
theorem AllOrNothing.congr {α : Type} {a : Action α} {allowed allowed' : Prop}
    {Q : α → Memory → Prop} (h : a.AllOrNothing w allowed Q) (hiff : allowed' ↔ allowed) :
    a.AllOrNothing w allowed' Q :=
  ⟨fun hallowed => h.all (hiff.1 hallowed), fun hnot => h.nothing fun hallowed =>
    hnot (hiff.2 hallowed)⟩

/-- What is made of the answer afterwards changes neither whether there is one
nor the store. -/
theorem AllOrNothing.map {α β : Type} {a : Action α} {allowed : Prop} {Q : α → Memory → Prop}
    {Q' : β → Memory → Prop} {f : α → β} (h : a.AllOrNothing w allowed Q)
    (hf : ∀ x m, Q x m → Q' (f x) m) :
    (a >>= fun x => pure (f x)).AllOrNothing w allowed Q' where
  all hallowed := by
    obtain ⟨x, w', hrun, hx⟩ := h.all hallowed
    exact ⟨f x, w', run_bind_ok hrun _, hf x _ hx⟩
  nothing hnot := by
    obtain ⟨e, w', hrun, hstore⟩ := h.nothing hnot
    exact ⟨e, w', run_bind_error hrun _, hstore⟩

/-- A rule that is all right stays so when it is switched on or off. -/
theorem complaint?_applied_active {r : Rule} (hr : r.WellFormed) (active : Bool) :
    (({ active := some active } : RuleUpdate).applied r).complaint? = none :=
  Rule.complaint?_eq_none.2 ⟨hr.name.not_isBlankText, hr.target⟩

/-- Every rule that is there can be switched on and off. -/
theorem setActive_allOrNothing (h : Reachable w) (user : String) (id : Id) (active : Bool) :
    (setActive user id active).AllOrNothing w (∃ old, w.store.rule? user id = some old)
      fun rule m => ∃ old, w.store.rule? user id = some old ∧
        old.ChangedBy { active := some active } rule ∧
        m = w.store.withRules (rule.replaceIn w.store.rules) ∧ m.rule? user id = some rule := by
  have hb : ({ active := some active } : RuleUpdate).backfill = false := rfl
  have hupdate := updateRule_allOrNothing h.distinctRules hb user id false
  refine (hupdate.map (f := RuleChange.rule) ?_).congr ?_
  · rintro change m ⟨old, hold, hchanged, -, hstore⟩
    exact ⟨old, hold, hchanged, hstore⟩
  · refine exists_congr fun old => ⟨fun hold => ⟨hold, nofun, ?_⟩, And.left⟩
    exact complaint?_applied_active (h.rulesWellFormed old (Memory.rule?_mem hold).1) active

/-- A rule that is deleted is taken out, and nothing else happens. -/
theorem deleteRule_allOrNothing (hd : w.store.DistinctRules) (user : String) (id : Id) :
    (deleteRule user id).AllOrNothing w (∃ old, w.store.rule? user id = some old)
      fun _ m => m = w.store.withRules (w.store.rules.filter fun r => r.id ≠ id) := by
  refine .of_yields ?_
  unfold deleteRule
  rw [yields_bind, yields_deleteRule, goes_ok]
  cases h : w.store.rule? user id with
  | none =>
    have hnone : ∀ r ∈ w.store.rules, ¬(r.id == id && r.user == user) = true :=
      List.find?_eq_none.1 h
    rw [if_neg fun hany => ?_]
    · refine .inr ⟨_, rfl, ?_, ?_⟩
      · rintro ⟨old, hold⟩
        cases hold
      show ({ w.store with rules := _ } : Memory) = w.store
      rw [List.filter_eq_self.2 fun r hr => by rw [Bool.eq_false_iff.2 (hnone r hr)]; rfl]
    · obtain ⟨r, hr, htest⟩ := List.any_eq_true.1 hany
      exact hnone r hr htest
  | some old =>
    obtain ⟨hmem, rfl, rfl⟩ := Memory.rule?_mem h
    have htest : (old.id == old.id && old.user == old.user) = true := by
      rw [beq_self_eq_true, beq_self_eq_true]
      rfl
    rw [if_pos (List.any_eq_true.2 ⟨old, hmem, htest⟩), yields_record]
    refine .inl ⟨(), rfl, ⟨old, rfl⟩, ?_⟩
    rw [World.record_store, World.withStore_store]
    refine congrArg w.store.withRules (List.filter_congr fun r hr => ?_)
    by_cases he : r.id = old.id
    · obtain rfl := List.inj_on_of_nodup_map hd hr hmem he
      simp
    · simp [he]

end Action

/-- **A change of a rule is all or nothing, and it touches that rule alone.**
Where rules are created, changed, switched or deleted without a backfill, an
operation that fails or breaks off leaves the store as it was.  One that
succeeds puts the new rule behind the others, replaces the rule in its place by
what the update makes of it, or takes it out; accounts, transactions and all
other rules are what they were, and the rule that is answered is the one in the
store.  A backfill follows after that, and it takes nothing back, whatever
writes are made to fail. -/
theorem rule_changes_are_all_or_nothing {w : World Memory} (h : Reachable w) (user : String)
    (includeManual : Bool) :
    (∀ new : NewRule, new.backfill = false →
      (Action.createRule user new includeManual).AllOrNothing w
        (∃ c r, Action.Makes user new w c r)
        fun change m => ∃ c, Action.Makes user new w c change.rule ∧ change.backfill = none ∧
          m = w.store.withRules (w.store.rules ++ [change.rule]) ∧
          m.rule? user change.rule.id = some change.rule) ∧
    (∀ (id : Id) (update : RuleUpdate), update.backfill = false →
      (Action.updateRule user id update includeManual).AllOrNothing w
        (∃ old, w.store.rule? user id = some old ∧ update.Acceptable ∧
          (update.applied old).complaint? = none)
        fun change m => ∃ old, w.store.rule? user id = some old ∧
          old.ChangedBy update change.rule ∧ change.backfill = none ∧
          m = w.store.withRules (change.rule.replaceIn w.store.rules) ∧
          m.rule? user id = some change.rule) ∧
    (∀ (id : Id) (active : Bool), (Action.setActive user id active).AllOrNothing w
      (∃ old, w.store.rule? user id = some old)
      fun rule m => ∃ old, w.store.rule? user id = some old ∧
        old.ChangedBy { active := some active } rule ∧
        m = w.store.withRules (rule.replaceIn w.store.rules) ∧ m.rule? user id = some rule) ∧
    (∀ id : Id, (Action.deleteRule user id).AllOrNothing w
      (∃ old, w.store.rule? user id = some old)
      fun _ m => m = w.store.withRules (w.store.rules.filter fun r => r.id ≠ id)) ∧
    (∀ new : NewRule, Action.StoresThenBackfills user includeManual
      (Action.createRule user { new with backfill := false } includeManual)
      (Action.createRule user { new with backfill := true } includeManual) w) ∧
    ∀ (id : Id) (update : RuleUpdate), Action.StoresThenBackfills user includeManual
      (Action.updateRule user id { update with backfill := false } includeManual)
      (Action.updateRule user id { update with backfill := true } includeManual) w := by
  refine ⟨fun new hb => Action.createRule_allOrNothing hb user includeManual w,
    fun id update hb => Action.updateRule_allOrNothing h.distinctRules hb user id includeManual,
    Action.setActive_allOrNothing h user, Action.deleteRule_allOrNothing h.distinctRules user,
    fun new => ?_, fun id update => ?_⟩
  · rw [Action.createRule_eq user new true]
    refine Action.storesThenBackfills fun change w₁ hrun => ?_
    obtain ⟨c, -, -, -, hstored⟩ :=
      (Action.createRule_allOrNothing rfl user includeManual w).of_run hrun
    exact hstored
  · rw [Action.updateRule_eq_backfill user id update true]
    refine Action.storesThenBackfills fun change w₁ hrun => ?_
    obtain ⟨old, hold, hchanged, -, -, hstored⟩ :=
      (Action.updateRule_allOrNothing h.distinctRules rfl user id includeManual).of_run hrun
    rwa [hchanged.version.id, (Memory.rule?_mem hold).2.1]

namespace Sample

/-- A new name for the rule, with blanks around it, and a backfill. -/
def relabel : RuleUpdate := { name := some " bakers ", backfill := true }

end Sample

/-- The rule is renamed though a write of the backfill fails, and what is
answered is the rule in the store, with the applications that were counted. -/
theorem rule_renamed_before_failing_backfill :
    Reachable Sample.world ∧ ∃ change summary w',
      (Action.updateRule "ana" ⟨3#128⟩ Sample.relabel false).run Sample.world = (.ok change, w') ∧
        change.backfill = some summary ∧ summary.groupsFailed = 1 ∧
        change.rule.name = "bakers" ∧ change.rule.timesApplied = 1 ∧
        w'.store.rule? "ana" change.rule.id = some change.rule := by
  obtain ⟨-, hupdate, -, -, -, hbackfill⟩ :=
    rule_changes_are_all_or_nothing Sample.reachable_world "ana" false
  obtain ⟨old, hold⟩ : ∃ old, Sample.world.store.rule? "ana" ⟨3#128⟩ = some old :=
    Option.isSome_iff_exists.1 (by decide +kernel)
  have hfine : ∀ old ∈ Sample.world.store.rule? "ana" ⟨3#128⟩,
      (Sample.relabel.applied old).complaint? = none := by decide +kernel
  obtain ⟨plain, w₁, hplain, -⟩ :=
    (hupdate ⟨3#128⟩ { Sample.relabel with backfill := false } rfl).all
      ⟨old, hold, nofun, hfine old hold⟩
  obtain ⟨summary, stored, w', -, hrun, hstored, hsame⟩ :=
    (hbackfill ⟨3#128⟩ Sample.relabel).done plain w₁ hplain
  have hlate : ((Action.updateRule "ana" ⟨3#128⟩ Sample.relabel false).run
      Sample.world).1.toOption.map (fun change =>
        (change.backfill.map (·.groupsFailed), change.rule.name, change.rule.timesApplied)) =
          some (some 1, "bakers", 1) := by decide +kernel
  rw [show (Action.updateRule "ana" ⟨3#128⟩ Sample.relabel false).run Sample.world =
    (.ok ⟨stored, some summary⟩, w') from hrun] at hlate
  obtain ⟨hfailed, hnamed⟩ := Prod.mk.inj (Option.some.inj hlate)
  obtain ⟨hname, htimes⟩ := Prod.mk.inj hnamed
  have hid : stored.id = plain.rule.id := by rw [hsame]
  rw [← hid] at hstored
  exact ⟨Sample.reachable_world, ⟨stored, some summary⟩, summary, w', hrun, rfl,
    Option.some.inj hfailed, hname, htimes, hstored⟩

end LedgerRules
