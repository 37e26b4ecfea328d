/-
# Operations carried out with two stores

Every action of the services is carried out in two worlds, one with a store of
records and one with a database that mirrors it.  Along its requests the two
read the same by value, so they propose the same, fail with the same error, and
write what leaves mirrors; only a bulk run goes its own way in between
(`together_applyToExisting`).
-/

import LedgerRules.Proofs.Program.Regrouping

namespace LedgerRules
namespace Action

variable {s : Span} {w : World Memory} {v : World Database} {user : String}

/-! ### Counting and reading rules -/

/-- A loop whose rounds leave mirrors leaves mirrors. -/
theorem together_forM {α : Type} {f : α → Action Unit}
    (hf : ∀ x w v, w.Mirrors s v → Together s (f x) (f x) w v fun _ _ w' v' => w'.Mirrors s v')
    (h : w.Mirrors s v) (l : List α) :
    Together s (l.forM f) (l.forM f) w v fun _ _ w' v' => w'.Mirrors s v' := by
  induction l generalizing w v with
  | nil => exact together_pure h
  | cons x l ih =>
    show Together s (f x >>= fun _ => l.forM f) (f x >>= fun _ => l.forM f) w v _
    exact (hf x w v h).bind fun _ _ _ _ h' => ih h'

/-- Applications are counted alike, one rule after the other. -/
theorem together_recordUsage (hs : s.Fits) (h : w.Mirrors s v) (usage : Usage) :
    Together s (recordUsage usage) (recordUsage usage) w v fun _ _ w' v' => w'.Mirrors s v' := by
  unfold recordUsage
  refine together_now hs h fun hnow h => together_forM (fun e w v h => ?_) h usage
  obtain ⟨rule, times⟩ := e
  obtain ⟨d', hd, hstore⟩ := h.store.recordApplications h.distinctRules rule times hnow
  exact together_try h (.of_no_insertion rfl rfl trivial) rfl hd hstore fun h => together_pure h

/-- The rules of a user are listed alike, and what is skipped is nothing. -/
theorem together_listRules (h : w.Mirrors s v) :
    Together s (listRules user) (listRules user) w v fun rules rules' w' v' =>
      List.Forall₂ Rule.SameValue rules rules' ∧ w'.Mirrors s v' := by
  obtain ⟨found, hfound, hsame⟩ :=
    h.store.listRules h.staggered user (v.store.ties.rules (.listRules user))
  unfold listRules noticeSkipped
  exact together_read rfl rfl (congrArg Except.ok hfound) (together_pure ⟨hsame, h⟩)

/-- The active rules are the same by value. -/
theorem together_activeRules (h : w.Mirrors s v) :
    Together s (activeRules user) (activeRules user) w v fun rules rules' w' v' =>
      List.Forall₂ Rule.SameValue rules rules' ∧ w' = w ∧ v' = v := by
  obtain ⟨found, hfound, hsame⟩ :=
    h.store.activeRules h.staggered user (v.store.ties.rules (.activeRules user))
  unfold activeRules noticeSkipped
  exact together_read rfl rfl (congrArg Except.ok hfound) (together_pure ⟨hsame, rfl, rfl⟩)

/-- A rule is read as the stored one by value. -/
theorem together_getRule (h : w.Mirrors s v) (id : Id) :
    Together s (getRule user id) (getRule user id) w v fun r r' w' v' =>
      w.store.rule? user id = some r ∧ r.SameValue r' ∧ w' = w ∧ v' = v := by
  obtain ⟨found, hfound, hrel⟩ := h.store.getRule user id
  unfold getRule
  refine together_read rfl rfl hfound ?_
  generalize hr : w.store.rule? user id = r at hrel ⊢
  cases hrel with
  | none => exact together_throw h _
  | some hsame => exact together_pure ⟨rfl, hsame, rfl, rfl⟩

/-- A transaction is read as the stored one by value. -/
theorem together_getTransaction (h : w.Mirrors s v) (id : Id) :
    Together s (getTransaction user id) (getTransaction user id) w v fun t t' w' v' =>
      w.store.transaction? user id = some t ∧ t.SameValue s.close t' ∧ w' = w ∧ v' = v := by
  obtain ⟨found, hfound, hrel⟩ := h.store.getTransaction user id
  unfold getTransaction
  refine together_read rfl rfl hfound ?_
  generalize ht : w.store.transaction? user id = t at hrel ⊢
  cases hrel with
  | none => exact together_throw h _
  | some hsame => exact together_pure ⟨rfl, hsame, rfl, rfl⟩

/-! ### Applying rules -/

/-- **Rules are applied to one transaction alike.** Both stores list the rules
in one order, up to bodies of equal value, and propose the same. -/
theorem together_applyToTransaction (hs : s.Fits) (h : w.Mirrors s v) (id : Id) :
    Together s (applyToTransaction user id) (applyToTransaction user id) w v
      fun o o' w' v' => o' = o ∧ w'.Mirrors s v' := by
  obtain ⟨found, hfound, hrel⟩ := h.store.getTransaction user id
  unfold applyToTransaction
  refine together_read rfl rfl hfound ?_
  generalize w.store.transaction? user id = read at hrel ⊢
  cases hrel with
  | none => exact together_throw h _
  | @some t t' hsame =>
    have hmanual : t'.fullyManual = t.fullyManual := by rw [hsame.others]; rfl
    dsimp only
    rw [hmanual]
    by_cases hfully : t.fullyManual = true
    · rw [if_pos hfully, if_pos hfully]
      exact together_pure ⟨rfl, h⟩
    rw [if_neg hfully, if_neg hfully]
    refine (together_activeRules h).bind fun rules rules' w' v' hread => ?_
    obtain ⟨hrules, rfl, rfl⟩ := hread
    have haccount : t'.account = t.account := by rw [hsame.others]
    have hid : t'.id = t.id := by rw [hsame.others]
    rw [haccount, hid]
    refine together_read rfl rfl (congrArg Except.ok (h.store.accountView user t.account)) ?_
    generalize (w'.store.account? user t.account).map Account.view = account
    have houtcome : (Outcome.ofRules rules' (t'.facts account)).withoutManual t'.categoryManual
        t'.merchantManual = (Outcome.ofRules rules (t.facts account)).withoutManual t.categoryManual
        t.merchantManual := bulkOutcome_congr hsame hrules false account
    rw [houtcome]
    generalize (Outcome.ofRules rules (t.facts account)).withoutManual _ _ = o
    by_cases hempty : o.isEmpty = true
    · rw [if_pos hempty]
      exact together_pure ⟨rfl, h⟩
    rw [if_neg hempty]
    have hgives : o.category.isSome = true ∨ o.merchant.isSome = true :=
      isSome_or_isSome_of_ne fun hpair => hempty (Outcome.isEmpty_iff.2 hpair)
    refine together_now hs h fun hnow h => ?_
    obtain ⟨d', hd, hm, hstore⟩ :=
      @Memory.Mirrors.assign _ _ _ user h.store hs.refl _ _ [t.id] _ hnow hgives
        (List.cons_ne_nil _ _)
    refine together_write h (.of_no_insertion rfl rfl trivial) (Prod.ext hm rfl) hd hstore
      fun h => ?_
    split
    · exact (together_recordUsage hs h _).bind fun _ _ _ _ h => together_pure ⟨rfl, h⟩
    · exact together_pure ⟨rfl, h⟩

/-- The same is proposed for the same transactions, in whichever order. -/
theorem together_bulkOutcomes (h : w.Mirrors s v) {rules rules' : List Rule}
    (hrules : List.Forall₂ Rule.SameValue rules rules') (includeManual : Bool)
    {ts ordered found : List Transaction} (hperm : ordered.Perm ts)
    (hsame : List.Forall₂ (Transaction.SameValue s.close) ordered found) :
    Together s (bulkOutcomes user rules includeManual [] ts)
      (bulkOutcomes user rules' includeManual [] found) w v fun outcomes outcomes' w' v' =>
        outcomes.Perm outcomes' ∧ outcomes.map Prod.fst = ts.map (·.id) ∧ w' = w ∧ v' = v := by
  obtain ⟨view, hview⟩ : ∃ view, (fun id => (w.store.account? user id).map Account.view) = view :=
    ⟨_, rfl⟩
  have hwview : ∀ id, (call (.accountView user id)).run w = (.ok (view id), w) := by
    intro id
    rw [← hview]
    rfl
  have hvview : ∀ id, (call (.accountView user id)).run v = (.ok (view id), v) := by
    intro id
    rw [← hview]
    dsimp only
    rw [← h.store.accountView]
    rfl
  have hunknown : ∀ id x, List.lookup id ([] : KnownAccounts) = some x → x = view id := nofun
  have hproposed :
      (found.map fun t => (t.id, bulkOutcome rules' includeManual t (view t.account))) =
      ordered.map fun t => (t.id, bulkOutcome rules includeManual t (view t.account)) := by
    refine map_eq_of_forall₂ (fun t t' ht => ?_) hsame
    rw [bulkOutcome_congr ht hrules, ht.others]
  refine ⟨fun _ => ?_⟩
  rw [bulkOutcomes_run hwview rules includeManual ts hunknown,
    bulkOutcomes_run hvview rules' includeManual found hunknown, hproposed]
  exact ⟨(hperm.map _).symm, List.map_map, rfl, rfl⟩

/-- **A bulk run does the same by value**, though in another order.  The
transactions come in the order of a statement without `ORDER BY`; the groups are
the same up to order, and so is what is counted. -/
theorem together_applyToExisting (hs : s.Fits) (hrun : s.OneRun) (h : w.Mirrors s v)
    (ids : Option (List Id)) (includeManual : Bool) :
    Together s (applyToExisting user ids includeManual) (applyToExisting user ids includeManual) w v
      fun x y w' v' => y = x ∧ w'.Mirrors s v' := by
  unfold applyToExisting
  refine (together_activeRules h).bind fun rules rules' w v hread => ?_
  obtain ⟨hrules, rfl, rfl⟩ := hread
  have hnone : rules'.isEmpty = rules.isEmpty := by
    rw [Bool.eq_iff_iff, List.isEmpty_iff_length_eq_zero, List.isEmpty_iff_length_eq_zero,
      hrules.length_eq]
  rw [hnone]
  by_cases hempty : rules.isEmpty = true
  · rw [if_pos hempty, if_pos hempty]
    exact together_pure ⟨rfl, h⟩
  rw [if_neg hempty, if_neg hempty]
  obtain ⟨ordered, found, hfound, hperm, hsame⟩ := h.store.eligible user ids includeManual
  have hlength : found.length = (w.store.eligibleOf user ids includeManual).length :=
    hsame.length_eq.symm.trans hperm.length_eq
  have hdistinct : ((w.store.eligibleOf user ids includeManual).map (·.id)).Nodup :=
    h.distinct.sublist (List.filter_sublist.map _)
  refine together_read rfl rfl hfound ?_
  refine (together_bulkOutcomes h hrules includeManual hperm hsame).bind
    fun outcomes outcomes' w v hproposed => ?_
  obtain ⟨ho, hids, rfl, rfl⟩ := hproposed
  dsimp only
  rw [hlength, ← hrules.length_eq, (Group.flatMap_perm ho).length_eq]
  refine (together_writeGroups user hs hrun h ho (hids ▸ hdistinct) _).bind
    fun x y w₁ v₁ hwritten => ?_
  obtain ⟨rfl, h⟩ := hwritten
  refine (together_recordUsage hs h _).bind fun _ _ w₂ v₂ h => ?_
  exact together_record h _ fun h => together_pure ⟨rfl, h⟩

/-! ### Changing rules -/

end Action

/-- Two changes of a rule agree by value, and their backfills were summed up
alike. -/
structure RuleChange.SameValue (c c' : RuleChange) : Prop where
  rule : c.rule.SameValue c'.rule
  backfill : c'.backfill = c.backfill

/-- A change of a rule that fits its cells fits them if its conditions do. -/
theorem RuleUpdate.fitsCells_apply (update : RuleUpdate) {old : Rule}
    {conditions : Option Conditions} {now : Instant} (hold : old.FitsCells)
    (hc : ∀ c ∈ conditions, c.FitsCell ∧ ∃ body, Conditions.validate body = .accepted c)
    (hnow : now.FitsCell) :
    ({ update.apply conditions old with updatedAt := now } : Rule).FitsCells := by
  refine ⟨?_, ?_, hold.lastAppliedAt, hold.createdAt, hnow⟩
  · show (conditions.getD old.conditions).FitsCell
    cases conditions with
    | none => exact hold.conditions
    | some c => exact (hc c rfl).1
  · show ∃ body, Conditions.validate body = .accepted (conditions.getD old.conditions)
    cases conditions with
    | none => exact hold.accepted
    | some c => exact (hc c rfl).2

/-- An edit of a transaction that fits its cells fits them if what it gives
does. -/
theorem TransactionUpdate.fitsCells_apply (update : TransactionUpdate) {old : Transaction}
    {now : Instant} (hold : old.FitsCells) (hamount : ∀ a ∈ update.amount, a.FitsCell)
    (hdate : ∀ d ∈ update.date, d.FitsCell) (hnow : now.FitsCell) :
    ({ update.apply old with updatedAt := now } : Transaction).FitsCells := by
  refine ⟨?_, ?_, hold.createdAt, hnow⟩
  · show (update.amount.getD old.amount).FitsCell
    cases hgiven : update.amount with
    | none => exact hold.amount
    | some a => exact hamount a hgiven
  · show (update.date.getD old.date).FitsCell
    cases hgiven : update.date with
    | none => exact hold.date
    | some d => exact hdate d hgiven

namespace Action

/-- What follows a change of a rule is done alike: an answer at once, or a
backfill and the rule read back. -/
theorem together_finishChange (hs : s.Fits) (h : w.Mirrors s v) {rule rule' : Rule}
    (hrule : rule.SameValue rule') {backfill : Bool} (hrun : backfill = true → s.OneRun)
    (includeManual : Bool) :
    Together s (finishChange user rule backfill includeManual)
      (finishChange user rule' backfill includeManual) w v
      fun c c' w' v' => c.SameValue c' ∧ w'.Mirrors s v' := by
  unfold finishChange
  cases backfill with
  | false => exact together_pure ⟨⟨hrule, rfl⟩, h⟩
  | true =>
    refine (together_applyToExisting hs (hrun rfl) h none includeManual).bind
      fun x y w' v' happlied => ?_
    obtain ⟨rfl, h⟩ := happlied
    obtain ⟨found, hfound, hrel⟩ := h.store.getRule user rule.id
    have hid : rule'.id = rule.id := by rw [hrule.others]
    rw [hid]
    refine together_read rfl rfl hfound (together_pure ⟨⟨?_, rfl⟩, h⟩)
    generalize w'.store.rule? user rule.id = read at hrel ⊢
    cases hrel with
    | none => exact hrule
    | some hsame => exact hsame

/-- The priority of a new rule is the same in both, and so is running out of
numbers. -/
theorem together_newPriority (h : w.Mirrors s v) (priority : Option Int32) :
    Together s (newPriority user priority) (newPriority user priority) w v
      fun p p' w' v' => p' = p ∧ w' = w ∧ v' = v := by
  unfold newPriority
  cases priority with
  | some p => exact together_pure ⟨rfl, rfl, rfl⟩
  | none =>
    refine together_read rfl rfl (congrArg Except.ok (h.store.maxPriority user)) ?_
    cases Memory.maxPriority (w.store.rules.filter (·.user == user)) with
    | none => exact together_pure ⟨rfl, rfl, rfl⟩
    | some greatest =>
      unfold onePast
      dsimp only
      by_cases hfull : greatest = Int32.maxValue
      · rw [if_pos hfull]
        exact together_throw h _
      · rw [if_neg hfull]
        exact together_pure ⟨rfl, rfl, rfl⟩

/-- A body whose numbers fit their cells is accepted or rejected alike. -/
theorem together_checkedConditions (h : w.Mirrors s v) (body : Json) :
    Together s (checkedConditions body) (checkedConditions body) w v fun c c' w' v' =>
      Conditions.validate body = .accepted c ∧ c' = c ∧ w' = w ∧ v' = v := by
  unfold checkedConditions
  cases Conditions.validate body with
  | accepted c => exact together_pure ⟨rfl, rfl, rfl, rfl⟩
  | rejected faults => exact together_throw h _

/-- **A rule is created alike.** Its body goes into a cell in the database,
which asks that the body comes back from its text with its value. -/
theorem together_createRule (hs : s.Fits) (h : w.Mirrors s v) {new : NewRule}
    (hbody : ∀ c, Conditions.validate new.conditions = .accepted c → c.FitsCell)
    (hrun : new.backfill = true → s.OneRun) (includeManual : Bool) :
    Together s (createRule user new includeManual) (createRule user new includeManual) w v
      fun c c' w' v' => c.SameValue c' ∧ w'.Mirrors s v' := by
  unfold createRule
  refine (together_checkedConditions h new.conditions).bind fun _ c w v hchecked => ?_
  obtain ⟨hc, rfl, rfl, rfl⟩ := hchecked
  refine together_freshId hs h fun hdrawn hnew h => ?_
  refine together_stamp hs h fun hnow hnoted hunused h => ?_
  refine (together_newPriority h new.priority).bind fun _ p _ _ hpriority => ?_
  obtain ⟨rfl, rfl, rfl⟩ := hpriority
  refine together_refuse h fun _ => ?_
  have hrule : (new.rule c w.supply.draw.1 user p w.supply.draw.2.tick.1).FitsCells :=
    ⟨hbody c hc, ⟨_, hc⟩, nofun, hnow, hnow⟩
  have hother : ∀ x ∈ w.store.rules, x.id ≠ w.supply.draw.1 := fun x hx he =>
    hnew (Memory.mem_ids.2 (.inr (.inr ⟨x, hx, he⟩)))
  obtain ⟨d', hd, hstore⟩ := h.store.insertRule hrule hother
  have hm := Memory.answer_insertRule
    (r := new.rule c w.supply.draw.1 user p w.supply.draw.2.tick.1) hother
  refine together_write h ⟨fun id hid => ?_, fun t ht => ?_, trivial⟩ hm hd hstore fun h => ?_
  · obtain rfl := Option.some.inj hid
    exact hdrawn
  · obtain rfl := Option.some.inj ht
    exact ⟨hnoted, hunused⟩
  refine together_record h _ fun h => ?_
  exact together_finishChange hs h (.refl _) hrun includeManual

/-- A rule that was worked out is checked, stamped and written alike. -/
theorem together_storeRule (hs : s.Fits) (h : w.Mirrors s v) {old old' : Rule}
    (hold : w.store.rule? user old.id = some old) (hsame : old.SameValue old') {update : RuleUpdate}
    {conditions : Option Conditions}
    (hc : ∀ c ∈ conditions, c.FitsCell ∧ ∃ body, Conditions.validate body = .accepted c)
    (hrun : update.backfill = true → s.OneRun) (includeManual : Bool) :
    Together s (storeRule user (update.apply conditions old) update.backfill includeManual)
      (storeRule user (update.apply conditions old') update.backfill includeManual) w v
      fun c c' w' v' => c.SameValue c' ∧ w'.Mirrors s v' := by
  obtain ⟨-, -, rfl⟩ := Memory.rule?_mem hold
  have hfits := h.store.fits_of_rule? hold
  have hrule := hsame.apply update conditions
  have hcomplaint : (update.apply conditions old').complaint? =
      (update.apply conditions old).complaint? := by
    rw [hrule.others]
    rfl
  have hevent : Event.about Event.ruleUpdated (update.apply conditions old').id =
      Event.about Event.ruleUpdated (update.apply conditions old).id := by
    rw [hrule.others]
  unfold storeRule
  rw [hcomplaint]
  refine together_refuse h fun _ => together_now hs h fun hnow h => ?_
  generalize w.supply.tick.1 = now at hnow h ⊢
  have hstored := update.fitsCells_apply hfits hc hnow
  have hchanged : ({ update.apply conditions old with updatedAt := now } : Rule).SameValue
      { update.apply conditions old' with updatedAt := now } :=
    ⟨hrule.conditions, by rw [hrule.others]⟩
  obtain ⟨d', hd, hstore⟩ := h.store.updateRule
    (r := { update.apply conditions old with updatedAt := now }) h.distinctRules hold
      hstored rfl hchanged
  have hm := Memory.answer_updateRule
    (r := { update.apply conditions old with updatedAt := now }) hold
  have hkeeps : Call.KeepsCreation w.store
      (.updateRule { update.apply conditions old with updatedAt := now }) := fun r hr => by
    rw [← Option.some.inj (hold.symm.trans hr)]
    rfl
  refine together_write h (.of_no_insertion rfl rfl hkeeps) hm hd hstore fun h => ?_
  rw [hevent]
  refine together_record h _ fun h => ?_
  exact together_finishChange hs h hchanged hrun includeManual

/-- **A rule is changed alike**, under the same condition for its new body. -/
theorem together_updateRule (hs : s.Fits) (h : w.Mirrors s v) (id : Id) {update : RuleUpdate}
    (hbody : ∀ body ∈ update.conditions, ∀ c, Conditions.validate body = .accepted c → c.FitsCell)
    (hrun : update.backfill = true → s.OneRun) (includeManual : Bool) :
    Together s (updateRule user id update includeManual) (updateRule user id update includeManual)
      w v fun c c' w' v' => c.SameValue c' ∧ w'.Mirrors s v' := by
  rw [updateRule_eq]
  refine (together_getRule h id).bind fun old old' w v hread => ?_
  obtain ⟨hold, hsame, rfl, rfl⟩ := hread
  obtain rfl := (Memory.rule?_mem hold).2.1
  unfold changeRule
  cases hu : update.conditions with
  | none =>
    have hnone : ∀ c ∈ (none : Option Conditions), c.FitsCell ∧
        ∃ body, Conditions.validate body = .accepted c := nofun
    exact together_storeRule hs h hold hsame hnone hrun includeManual
  | some body =>
    refine Together.bind (P := fun (c c' : Option Conditions) w' v' => c' = c ∧ w' = w ∧ v' = v ∧
      ∀ x ∈ c, x.FitsCell ∧ ∃ body, Conditions.validate body = .accepted x) ?_ ?_
    · refine (together_checkedConditions h body).map fun c c' _ _ hchecked => ?_
      obtain ⟨hc, rfl, rfl, rfl⟩ := hchecked
      refine ⟨rfl, rfl, rfl, ?_⟩
      rintro _ ⟨⟩
      exact ⟨hbody body hu _ hc, body, hc⟩
    · rintro _ c _ _ ⟨rfl, rfl, rfl, hc⟩
      exact together_storeRule hs h hold hsame hc hrun includeManual

/-- A rule is switched on or off alike. -/
theorem together_setActive (hs : s.Fits) (h : w.Mirrors s v) (id : Id) (active : Bool) :
    Together s (setActive user id active) (setActive user id active) w v
      fun r r' w' v' => r.SameValue r' ∧ w'.Mirrors s v' := by
  unfold setActive
  have hbackfill : ({ active := some active } : RuleUpdate).backfill = true → s.OneRun := nofun
  exact (together_updateRule hs h id (by simp) hbackfill false).bind fun _ _ _ _ hchange =>
    together_pure ⟨hchange.1.rule, hchange.2⟩

/-- A rule is deleted in both, or missing from both. -/
theorem together_deleteRule (h : w.Mirrors s v) (id : Id) :
    Together s (deleteRule user id) (deleteRule user id) w v fun _ _ w' v' => w'.Mirrors s v' := by
  unfold deleteRule
  obtain ⟨d', hd, hstore⟩ := h.store.deleteRule user id
  refine together_write h (.of_no_insertion rfl rfl trivial) rfl hd hstore fun h => ?_
  split
  · exact together_record h _ fun h => together_pure h
  · exact together_throw h _

/-! ### Accounts and transactions -/

/-- An account is recorded in both, or refused by both. -/
theorem together_addAccount (hs : s.Fits) (h : w.Mirrors s v) (new : NewAccount) :
    Together s (addAccount user new) (addAccount user new) w v
      fun a a' w' v' => a' = a ∧ w'.Mirrors s v' := by
  unfold addAccount
  refine together_freshId hs h fun hdrawn hnew h => ?_
  refine together_now hs h fun hnow h => ?_
  refine together_refuse h fun _ => ?_
  have hother : ∀ x ∈ w.store.accounts, x.id ≠ w.supply.draw.1 := fun x hx he =>
    hnew (Memory.mem_ids.2 (.inl ⟨x, hx, he⟩))
  obtain ⟨d', hd, hstore⟩ := h.store.insertAccount
    (a := new.account w.supply.draw.1 user w.supply.draw.2.tick.1) ⟨hnow, hnow⟩ hother
  refine together_write h ⟨fun id hid => ?_, nofun, trivial⟩ rfl hd hstore fun h =>
    together_pure ⟨rfl, h⟩
  obtain rfl := Option.some.inj hid
  exact hdrawn

/-- Accounts are listed alike but for the order of those of equal names. -/
theorem together_listAccounts (h : w.Mirrors s v) :
    Together s (listAccounts user) (listAccounts user) w v
      fun l l' w' v' => Account.SameListing l l' ∧ w'.Mirrors s v' := by
  obtain ⟨found, hfound, hsame⟩ := h.store.listAccounts user
  exact together_call rfl rfl hfound ⟨hsame, h⟩

/-- Transactions are listed alike, whole or up to a limit. -/
theorem together_listTransactions (h : w.Mirrors s v) (account : Option Id) {limit : Option Nat}
    (hlimit : ∀ n ∈ limit, Number.fitsSigned n = true) :
    Together s (listTransactions user account limit) (listTransactions user account limit) w v
      fun l l' w' v' => List.Forall₂ (Transaction.SameValue s.close) l l' ∧ w'.Mirrors s v' := by
  obtain ⟨found, hfound, hsame⟩ := h.store.listTransactions h.staggered user account hlimit
  exact together_call rfl rfl hfound ⟨hsame, h⟩

/-- A transaction that was stored is read back alike. -/
theorem together_reread (h : w.Mirrors s v) (id : Id) :
    Together s (getTransaction user id) (getTransaction user id) w v
      fun t t' w' v' => t.SameValue s.close t' ∧ w'.Mirrors s v' := by
  refine (together_getTransaction h id).mono fun t t' _ _ hread => ?_
  obtain ⟨-, hsame, rfl, rfl⟩ := hread
  exact ⟨hsame, h⟩

/-- A transaction that is stored has rules applied to it, if they are to be, and
is read again.  Recording and editing both end in this way. -/
def settle (user : String) (id : Id) (applies : Bool) : Action Transaction := do
  if applies then
    let _ ← applyToTransaction user id
  getTransaction user id

/-- What follows a stored transaction is done alike. -/
theorem together_settle (hs : s.Fits) (h : w.Mirrors s v) (id : Id) (applies : Bool) :
    Together s (settle user id applies) (settle user id applies) w v
      fun t t' w' v' => t.SameValue s.close t' ∧ w'.Mirrors s v' := by
  unfold settle
  cases applies with
  | false => exact together_reread h id
  | true => exact (together_applyToTransaction hs h id).bind fun _ _ _ _ happlied =>
      together_reread happlied.2 id

/-- A transaction with a new identifier is stored in both. -/
theorem together_enter (hs : s.Fits) (h : w.Mirrors s v) {t : Transaction} (ht : t.FitsCells)
    (hdrawn : w.Drawn t.id) (hnew : t.id ∉ w.store.ids) (hnoted : w.Noted t.createdAt)
    (hunused : t.createdAt ∉ w.store.creations) (applies : Bool) :
    Together s (call (.insertTransaction t) >>= fun _ => settle user t.id applies)
      (call (.insertTransaction t) >>= fun _ => settle user t.id applies) w v
      fun t t' w' v' => t.SameValue s.close t' ∧ w'.Mirrors s v' := by
  have hother : ∀ x ∈ w.store.transactions, x.id ≠ t.id := fun x hx he =>
    hnew (Memory.mem_ids.2 (.inr (.inl ⟨x, hx, he⟩)))
  obtain ⟨d', hd, hstore⟩ := h.store.insertTransaction hs.refl ht hother
  refine together_write h ⟨fun id hid => ?_, fun t ht => ?_, trivial⟩
    (Memory.answer_insertTransaction hother) hd hstore fun h => together_settle hs h t.id applies
  · obtain rfl := Option.some.inj hid
    exact hdrawn
  · obtain rfl := Option.some.inj ht
    exact ⟨hnoted, hunused⟩

/-- **A transaction is recorded alike.** Its amount and its date go into cells
in the database, so they have to fit. -/
theorem together_addTransaction (hs : s.Fits) (h : w.Mirrors s v) {new : NewTransaction}
    (hamount : new.amount.FitsCell) (hdate : ∀ d ∈ new.date, d.FitsCell) :
    Together s (addTransaction user new) (addTransaction user new) w v
      fun t t' w' v' => t.SameValue s.close t' ∧ w'.Mirrors s v' := by
  unfold addTransaction
  refine together_read rfl rfl (h.store.getAccount user new.account) ?_
  cases w.store.account? user new.account with
  | none => exact together_throw h _
  | some account =>
    refine together_now hs h fun htoday h => ?_
    generalize w.supply.tick.1 = today at htoday h ⊢
    refine together_freshId hs h fun hdrawn hnew h => ?_
    generalize (Supply.draw _).1 = id at hdrawn hnew ⊢
    refine together_stamp hs h fun hnow hnoted hunused h => ?_
    generalize (Supply.tick _).1 = now at hnow hnoted hunused ⊢
    have hday : (new.date.getD today.date).FitsCell := by
      cases hgiven : new.date with
      | none => exact htoday.date
      | some d => exact hdate d hgiven
    exact together_enter (t := new.transaction account id user today.date now) hs h
      ⟨hamount, hday, hnow, hnow⟩ hdrawn hnew hnoted hunused _

/-- A transaction that was read is put back in both. -/
theorem together_edit (hs : s.Fits) (h : w.Mirrors s v) {old t t' : Transaction}
    (hold : w.store.transaction? t.user t.id = some old) (ht : t.FitsCells)
    (hcreated : t.createdAt = old.createdAt) (hsame : t.SameValue Eq t') (applies : Bool) :
    Together s
      (call (.updateTransaction t) >>= fun _ => settle user t.id (applies && !t.fullyManual))
      (call (.updateTransaction t') >>= fun _ => settle user t'.id (applies && !t'.fullyManual)) w v
      fun t t' w' v' => t.SameValue s.close t' ∧ w'.Mirrors s v' := by
  obtain ⟨d', hd, hstore⟩ := h.store.updateTransaction hs.refl h.distinct hold ht hcreated hsame
  have hmanual : t'.fullyManual = t.fullyManual := by
    rw [hsame.others]
    rfl
  have hid : t'.id = t.id := by rw [hsame.others]
  have hkeeps : Call.KeepsCreation w.store (.updateTransaction t) := fun s hs => by
    rw [hcreated, Option.some.inj (hold.symm.trans hs)]
  refine together_write h (.of_no_insertion rfl rfl hkeeps)
    (Memory.answer_updateTransaction hold) hd hstore
    fun h => ?_
  rw [hmanual, hid]
  exact together_settle hs h t.id _

/-- **A transaction is edited alike**, under the same conditions for what is
new. -/
theorem together_updateTransaction (hs : s.Fits) (h : w.Mirrors s v) (id : Id)
    {update : TransactionUpdate} (hamount : ∀ a ∈ update.amount, a.FitsCell)
    (hdate : ∀ d ∈ update.date, d.FitsCell) :
    Together s (updateTransaction user id update) (updateTransaction user id update) w v
      fun t t' w' v' => t.SameValue s.close t' ∧ w'.Mirrors s v' := by
  unfold updateTransaction
  refine (together_getTransaction h id).bind fun old old' w v hread => ?_
  obtain ⟨hold, hsame, rfl, rfl⟩ := hread
  obtain ⟨-, rfl, rfl⟩ := Memory.transaction?_mem hold
  obtain ⟨_, hfits⟩ := h.store.fits_of_transaction? hold
  have hedited := hsame.apply update
  refine together_now hs h fun hnow h => ?_
  generalize w.supply.tick.1 = now at hnow h ⊢
  have hstored := update.fitsCells_apply hfits hamount hdate hnow
  have hputBack : ({ update.apply old with updatedAt := now } : Transaction).SameValue Eq
      { update.apply old' with updatedAt := now } :=
    ⟨hedited.amount, rfl, by rw [hedited.others]⟩
  exact together_edit (t := { update.apply old with updatedAt := now }) hs h hold hstored rfl
    hputBack _

end Action
end LedgerRules
