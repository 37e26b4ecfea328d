/-
# An operation minds its user's affairs

Every call that an operation makes is made for its user (`Contract.affairs`).
Most of them name the user outright.  A record that is written back is one that
was read, and it was read as the user's.  A record that is inserted has the
identifier that was drawn for it, and what is counted is counted for rules that
were listed as active.  So all that has to be promised is whose the answers are,
and then `Operation.action_meets` goes along the operations, request by request.
-/

import LedgerRules.Program.Operation
import LedgerRules.Proofs.Outcome.Contributors
import LedgerRules.Proofs.Program.Interleaving
import LedgerRules.Proofs.Program.Updating
import LedgerRules.Proofs.Store.Shares

namespace LedgerRules

/-- All calls are made for a user.  In return the records that are read are that
user's, the active rules have identifiers of that user, and the identifiers that
are drawn are fresh.  Any store that keeps users apart keeps this promise, so a
program is gone through once for all stores. -/
def Contract.affairs (user : String) (own fresh : Id → Prop) : Contract where
  allows
    | .call c => c.IsFor user own fresh
    | _ => True
  promises
    | .freshId, id => fresh id
    | .call (.activeRules _), answer => ∀ l, answer = .ok l → ∀ r ∈ l.rules, own r.id
    | .call (.getTransaction _ _), answer => ∀ t, answer = .ok (some t) → t.user = user
    | .call (.getRule _ _), answer => ∀ r, answer = .ok (some r) → r.user = user
    | _, _ => True

namespace Action

variable {user : String} {own fresh : Id → Prop}

/-! ### Reading -/

/-- To refuse something calls no store. -/
theorem meets_refuse {c : Contract} (complaint : Option Complaint) :
    (refuse complaint).Meets c fun _ => True := by
  cases complaint with
  | none => exact meets_pure trivial
  | some _ => exact meets_throw

/-- What is made of a result afterwards calls no store either. -/
theorem Meets.map {α β : Type} {c : Contract} {a : Action α} (h : a.Meets c fun _ => True)
    (f : α → β) : (f <$> a).Meets c fun _ => True := h.bind fun _ _ => meets_pure trivial

/-- A transaction that a store finds for the user is the user's. -/
theorem call_getTransaction_affairs (id : Id) :
    (call (.getTransaction user id)).Meets (.affairs user own fresh) fun found =>
      ∀ t, found = some t → t.user = user :=
  meets_call rfl fun _ h t ht => h t (congrArg Except.ok ht)

/-- So it is when a missing one is an error. -/
theorem getTransaction_affairs (id : Id) :
    (getTransaction user id).Meets (.affairs user own fresh) fun t => t.user = user := by
  unfold getTransaction
  refine (call_getTransaction_affairs id).bind fun found hfound => ?_
  cases found with
  | none => exact meets_throw
  | some t => exact meets_pure (hfound t rfl)

/-- A rule that is found for the user is the user's. -/
theorem getRule_affairs (id : Id) :
    (getRule user id).Meets (.affairs user own fresh) fun r => r.user = user := by
  have hread : (call (.getRule user id)).Meets (.affairs user own fresh) fun found =>
      ∀ r, found = some r → r.user = user :=
    meets_call rfl fun _ h r hr => h r (congrArg Except.ok hr)
  unfold getRule
  refine hread.bind fun found hfound => ?_
  cases found with
  | none => exact meets_throw
  | some r => exact meets_pure (hfound r rfl)

/-- To tell which rules were skipped leaves those that were not. -/
theorem noticeSkipped_affairs {listing : Listing} {Q : List Rule → Prop} (h : Q listing.rules) :
    (noticeSkipped listing).Meets (.affairs user own fresh) Q := by
  unfold noticeSkipped
  exact (meets_forM fun _ _ => meets_notice trivial).bind fun _ _ => meets_pure h

/-- The rules are listed for the user. -/
theorem listRules_affairs : (listRules user).Meets (.affairs user own fresh) fun _ => True := by
  unfold listRules
  exact (meets_call_any rfl).bind fun _ _ => noticeSkipped_affairs trivial

/-- The active rules have identifiers of the user. -/
theorem activeRules_affairs :
    (activeRules user).Meets (.affairs user own fresh) fun rules => ∀ r ∈ rules, own r.id := by
  have hread : (call (.activeRules user)).Meets (.affairs user own fresh) fun listing =>
      ∀ r ∈ listing.rules, own r.id := meets_call rfl fun l h => h l rfl
  unfold activeRules
  exact hread.bind fun _ hl => noticeSkipped_affairs hl

/-! ### Applying rules -/

/-- Applications are counted for rules of the user if they are of such rules. -/
theorem recordUsage_affairs {usage : Usage} (h : usage.Names own) :
    (recordUsage usage).Meets (.affairs user own fresh) fun _ => True := by
  unfold recordUsage
  refine (meets_now trivial).bind fun at_ _ => meets_forM fun entry he => ?_
  refine (meets_tryCall (h entry he)).bind fun answer _ => ?_
  cases answer with
  | ok _ => exact meets_pure trivial
  | error _ => exact meets_record trivial

/-- An application to one transaction concerns the user alone. -/
theorem applyToTransaction_affairs (id : Id) :
    (applyToTransaction user id).Meets (.affairs user own fresh) fun _ => True := by
  unfold applyToTransaction
  refine (call_getTransaction_affairs id).bind fun found _ => ?_
  cases found with
  | none => exact meets_throw
  | some t =>
    dsimp only
    split
    · exact meets_pure trivial
    refine activeRules_affairs.bind fun rules hrules => ?_
    refine (meets_call_any rfl).bind fun account _ => ?_
    have hnames : ((Outcome.ofRules rules (t.facts account)).withoutManual t.categoryManual
        t.merchantManual).Names own := (Outcome.names_ofRules _ hrules).withoutManual _ _
    split
    · exact meets_pure trivial
    refine (meets_now trivial).bind fun now _ => (meets_call_any rfl).bind fun updated _ => ?_
    split
    · have hnone : Usage.Names own [] := fun _ he => absurd he List.not_mem_nil
      have husage := hnone.foldl_add hnames.contributing updated
      exact (recordUsage_affairs husage).bind fun _ _ => meets_pure trivial
    · exact meets_pure trivial

/-- Accounts are looked up for the user. -/
theorem lookUpAccount_affairs (known : KnownAccounts) (id : Id) :
    (lookUpAccount user known id).Meets (.affairs user own fresh) fun _ => True := by
  unfold lookUpAccount
  split
  · exact meets_pure trivial
  · exact (meets_call_any rfl).bind fun _ _ => meets_pure trivial

/-- What rules of the user propose for transactions names those rules. -/
theorem bulkOutcomes_affairs {rules : List Rule} (hrules : ∀ r ∈ rules, own r.id)
    (includeManual : Bool) (known : KnownAccounts) (ts : List Transaction) :
    (bulkOutcomes user rules includeManual known ts).Meets (.affairs user own fresh) fun outcomes =>
      ∀ e ∈ outcomes, e.2.Names own := by
  induction ts generalizing known with
  | nil => exact meets_pure fun _ he => absurd he List.not_mem_nil
  | cons t ts ih =>
    unfold bulkOutcomes
    refine (lookUpAccount_affairs known t.account).bind fun found _ => ?_
    refine (ih found.2).bind fun more hmore => meets_pure (List.forall_mem_cons.2 ⟨?_, hmore⟩)
    have hnames := Outcome.names_ofRules (t.facts found.1) hrules
    show (bulkOutcome rules includeManual t found.1).Names own
    unfold bulkOutcome
    dsimp only
    split
    · exact hnames
    · exact hnames.withoutManual _ _

/-- Groups are written for the user, and what is counted are rules that they
name. -/
theorem writeGroups_affairs {groups : List Group} (h : ∀ g ∈ groups, g.usage.Names own)
    (summary : BulkSummary) {usage : Usage} (hu : usage.Names own) :
    (writeGroups user summary usage groups).Meets (.affairs user own fresh) fun done =>
      done.2.Names own := by
  induction groups generalizing summary usage with
  | nil => exact meets_pure hu
  | cons g groups ih =>
    obtain ⟨hg, hgroups⟩ := List.forall_mem_cons.1 h
    unfold writeGroups
    refine (meets_now trivial).bind fun now _ => (meets_tryCall rfl).bind fun answer _ => ?_
    cases answer with
    | ok updated => exact ih hgroups _ (hu.merge hg)
    | error e => exact (meets_record trivial).bind fun _ _ => ih hgroups _ hu

/-- A bulk run concerns the user alone. -/
theorem applyToExisting_affairs (ids : Option (List Id)) (includeManual : Bool) :
    (applyToExisting user ids includeManual).Meets (.affairs user own fresh) fun _ => True := by
  unfold applyToExisting
  refine activeRules_affairs.bind fun rules hrules => ?_
  split
  · exact meets_pure trivial
  refine (meets_call_any rfl).bind fun ts _ => ?_
  refine (bulkOutcomes_affairs hrules includeManual [] ts).bind fun outcomes ho => ?_
  have hgroups := Group.names_ofOutcomes ho
  refine (writeGroups_affairs hgroups _ fun _ he => absurd he List.not_mem_nil).bind
    fun done hdone => ?_
  refine (recordUsage_affairs hdone).bind fun _ _ => ?_
  exact (meets_record trivial).bind fun _ _ => meets_pure trivial

/-! ### Accounts and transactions -/

/-- A new account is one of the user. -/
theorem addAccount_affairs (new : NewAccount) :
    (addAccount user new).Meets (.affairs user own fresh) fun _ => True := by
  have hdraw : freshId.Meets (.affairs user own fresh) fun _ => True :=
    ⟨trivial, fun _ _ _ _ => trivial⟩
  unfold addAccount
  refine hdraw.bind fun id _ => (meets_now trivial).bind fun now _ => ?_
  have huser : (new.account id user now).user = user := rfl
  generalize new.account id user now = account at huser ⊢
  refine (meets_refuse _).bind fun _ _ => ?_
  exact (meets_call_any huser).bind fun _ _ => meets_pure trivial

/-- An identifier that is drawn is fresh. -/
theorem freshId_affairs : freshId.Meets (.affairs user own fresh) fresh :=
  ⟨trivial, fun _ h _ hx => Except.ok.inj hx ▸ h⟩

/-- A new transaction is one of the user. -/
theorem addTransaction_affairs (new : NewTransaction) :
    (addTransaction user new).Meets (.affairs user own fresh) fun _ => True := by
  unfold addTransaction
  refine (meets_call_any rfl).bind fun found _ => ?_
  cases found with
  | none => exact meets_throw
  | some account =>
    refine (meets_now trivial).bind fun today _ => freshId_affairs.bind fun id hid => ?_
    refine (meets_now trivial).bind fun now _ => ?_
    have hinsert :
        (call (.insertTransaction (new.transaction account id user today.date now))).Meets
        (.affairs user own fresh) fun _ => True := meets_call_any ⟨rfl, hid⟩
    refine hinsert.bind fun _ _ => ?_
    have hget : (getTransaction user (new.transaction account id user today.date now).id).Meets
        (.affairs user own fresh) fun _ => True :=
      (getTransaction_affairs _).mono fun _ _ => trivial
    split
    · exact (applyToTransaction_affairs _).bind fun _ _ => hget
    · exact hget

/-- An edit concerns a transaction of the user. -/
theorem updateTransaction_affairs (id : Id) (update : TransactionUpdate) :
    (updateTransaction user id update).Meets (.affairs user own fresh) fun _ => True := by
  unfold updateTransaction
  refine (getTransaction_affairs id).bind fun old hold => (meets_now trivial).bind fun now _ => ?_
  have hupdate : (call (.updateTransaction { update.apply old with updatedAt := now })).Meets
      (.affairs user own fresh) fun _ => True := meets_call_any hold
  refine hupdate.bind fun _ _ => ?_
  have hget : (getTransaction user old.id).Meets (.affairs user own fresh) fun _ => True :=
    (getTransaction_affairs old.id).mono fun _ _ => trivial
  split
  · exact (applyToTransaction_affairs _).bind fun _ _ => hget
  · exact hget

/-! ### Changing rules -/

/-- A backfill is a bulk run for the user. -/
theorem finishChange_affairs (rule : Rule) (backfill includeManual : Bool) :
    (finishChange user rule backfill includeManual).Meets (.affairs user own fresh)
      fun _ => True := by
  unfold finishChange
  split
  · exact meets_pure trivial
  refine (applyToExisting_affairs none includeManual).bind fun summary _ => ?_
  exact (meets_call_any rfl).bind fun _ _ => meets_pure trivial

/-- To check a body calls no store. -/
theorem checkedConditions_meets {c : Contract} (body : Json) :
    (checkedConditions body).Meets c fun _ => True := by
  unfold checkedConditions
  split
  · exact meets_pure trivial
  · exact meets_throw

/-- Nor does it to count on, even where it breaks off. -/
theorem onePast_meets {c : Contract} (p : Int32) : (onePast p).Meets c fun _ => True := by
  unfold onePast
  split
  · exact meets_throw
  · exact meets_pure trivial

/-- The next priority is asked for among the rules of the user. -/
theorem newPriority_affairs (priority : Option Int32) :
    (newPriority user priority).Meets (.affairs user own fresh) fun _ => True := by
  unfold newPriority
  split
  · exact meets_pure trivial
  refine (meets_call_any rfl).bind fun greatest _ => ?_
  split
  · exact onePast_meets _
  · exact meets_pure trivial

/-- A new rule is one of the user. -/
theorem createRule_affairs (new : NewRule) (backfillIncludesManual : Bool) :
    (createRule user new backfillIncludesManual).Meets (.affairs user own fresh) fun _ => True := by
  unfold createRule
  refine (checkedConditions_meets _).bind fun conditions _ => ?_
  refine freshId_affairs.bind fun id hid => (meets_now trivial).bind fun now _ => ?_
  refine (newPriority_affairs _).bind fun priority _ => ?_
  have hrule : (new.rule conditions id user priority now).user = user ∧
      fresh (new.rule conditions id user priority now).id := ⟨rfl, hid⟩
  generalize new.rule conditions id user priority now = rule at hrule ⊢
  refine (meets_refuse _).bind fun _ _ => (meets_call_any hrule).bind fun _ _ => ?_
  exact (meets_record trivial).bind fun _ _ => finishChange_affairs _ _ _

/-- A rule of the user is stored as one of the user. -/
theorem storeRule_affairs {rule : Rule} (hrule : rule.user = user)
    (backfill includeManual : Bool) :
    (storeRule user rule backfill includeManual).Meets (.affairs user own fresh)
      fun _ => True := by
  unfold storeRule
  refine (meets_refuse _).bind fun _ _ => (meets_now trivial).bind fun now _ => ?_
  have hstore : (call (.updateRule { rule with updatedAt := now })).Meets
      (.affairs user own fresh) fun _ => True := meets_call_any hrule
  exact hstore.bind fun _ _ => (meets_record trivial).bind fun _ _ => finishChange_affairs _ _ _

/-- A change leaves a rule with its user. -/
theorem updateRule_affairs (id : Id) (update : RuleUpdate) (backfillIncludesManual : Bool) :
    (updateRule user id update backfillIncludesManual).Meets (.affairs user own fresh)
      fun _ => True := by
  rw [updateRule_eq]
  refine (getRule_affairs id).bind fun old hold => ?_
  have huser : ∀ conditions, (update.apply conditions old).user = user := fun _ => hold
  unfold changeRule
  split
  · exact Meets.bind ((checkedConditions_meets _).map _) fun conditions _ =>
      storeRule_affairs (huser conditions) _ _
  · exact storeRule_affairs (huser none) _ _

/-- A rule is deleted for the user. -/
theorem deleteRule_affairs (id : Id) :
    (deleteRule user id).Meets (.affairs user own fresh) fun _ => True := by
  unfold deleteRule
  refine (meets_call_any rfl).bind fun found _ => ?_
  split
  · exact meets_record trivial
  · exact meets_throw

end Action

/-- **Every call of an operation is made for its user.** It is shown once here,
program by program, and used with every store that keeps its promises. -/
theorem Operation.action_affairs (backfillIncludesManual : Bool) (user : String)
    (own fresh : Id → Prop) (op : Operation) :
    (op.action backfillIncludesManual user).Meets (.affairs user own fresh) fun _ => True := by
  cases op with
  | addAccount new => exact (Action.addAccount_affairs new).map _
  | listAccounts => exact Action.Meets.map (Action.meets_call_any rfl) _
  | addTransaction new => exact (Action.addTransaction_affairs new).map _
  | updateTransaction id update => exact (Action.updateTransaction_affairs id update).map _
  | getTransaction id => exact ((Action.getTransaction_affairs id).mono fun _ _ => trivial).map _
  | listTransactions account limit => exact Action.Meets.map (Action.meets_call_any rfl) _
  | createRule new => exact (Action.createRule_affairs new _).map _
  | updateRule id update => exact (Action.updateRule_affairs id update _).map _
  | setActive id active =>
    exact Action.Meets.map ((Action.updateRule_affairs id _ _).bind fun _ _ =>
      Action.meets_pure trivial) _
  | deleteRule id => exact (Action.deleteRule_affairs id).map _
  | getRule id => exact ((Action.getRule_affairs id).mono fun _ _ => trivial).map _
  | listRules => exact Action.listRules_affairs.map _
  | applyToTransaction id => exact (Action.applyToTransaction_affairs id).map _
  | applyToExisting ids includeManual => exact (Action.applyToExisting_affairs ids _).map _

end LedgerRules
