/-
# What an application of rules may write

The actions that apply rules read transactions, and later they write targets.
Which requests they make in between depends on nothing, so what they write is
all that a contract has to look at: if it may be written to a transaction what
rules propose for it, as it was seen, then the actions keep to the contract
(`Contract.LetsApply`, `Action.applyToExisting_meets_of`).

Between the two the store may have changed: all that is certain is that no row
is stored, and that each target that is written was proposed for the transaction
as it was seen (`Contract.proposals`).  Both actions keep to that whatever the
answers are (`Action.Applies.meets`), so it holds however their requests are
interleaved with others.
-/

import LedgerRules.Proofs.Outcome.Grouping
import LedgerRules.Proofs.Program.Interleaving
import LedgerRules.Program.Ledger

namespace LedgerRules

/-! ### Applying rules under a contract -/

/-- The requests of an application that have nothing to do with transactions.
Their answers may shape what is proposed, but they change no transaction. -/
def Request.isAside : Request → Bool
  | .call (.activeRules _) => true
  | .call (.accountView _ _) => true
  | .call (.recordApplications _ _ _) => true
  | .now => true
  | .record _ => true
  | .notice _ => true
  | _ => false

/-- A contract under which rules may be applied: what has nothing to do with
transactions is allowed, and so is a write of targets that are fine for each
transaction it is made to. -/
structure Contract.LetsApply (c : Contract) (fine : Id → Option Int64 × Option String → Prop) :
    Prop where
  aside : ∀ r : Request, r.isAside = true → c.allows r
  assign : ∀ user category merchant ids now, (∀ id ∈ ids, fine id (category, merchant)) →
    c.allows (.call (.assign user category merchant ids now))

namespace Action

variable {c : Contract} {fine : Id → Option Int64 × Option String → Prop} {user : String}
  {includeManual : Bool}

section

variable (hc : c.LetsApply fine)

include hc

/-- Listing the active rules has nothing to do with transactions. -/
theorem activeRules_meets (user : String) : (activeRules user).Meets c fun _ => True := by
  unfold activeRules noticeSkipped
  refine (meets_call_any (hc.aside _ rfl)).bind fun listing _ => ?_
  exact (meets_forM fun _ _ => meets_notice (hc.aside _ rfl)).bind fun _ _ => meets_pure trivial

/-- Neither has counting applications. -/
theorem recordUsage_meets (usage : Usage) : (recordUsage usage).Meets c fun _ => True := by
  unfold recordUsage
  refine (meets_now (hc.aside _ rfl)).bind fun at_ _ => meets_forM fun entry _ => ?_
  refine (meets_tryCall (hc.aside _ rfl)).bind fun answer _ => ?_
  cases answer with
  | ok _ => exact meets_pure trivial
  | error _ => exact meets_record (hc.aside _ rfl)

/-- Working out proposals reads accounts, and gives each transaction a proposal
that is fine for it. -/
theorem bulkOutcomes_meets (rules : List Rule) (known : KnownAccounts) {ts : List Transaction}
    (h : ∀ t ∈ ts, ∀ account, fine t.id (bulkOutcome rules includeManual t account).pair) :
    (bulkOutcomes user rules includeManual known ts).Meets c fun outcomes =>
      ∀ e ∈ outcomes, fine e.1 e.2.pair := by
  induction ts generalizing known with
  | nil => exact meets_pure fun _ he => absurd he List.not_mem_nil
  | cons t ts ih =>
    unfold bulkOutcomes
    have hlook : (lookUpAccount user known t.account).Meets c fun _ => True := by
      unfold lookUpAccount
      split
      · exact meets_pure trivial
      · exact (meets_call_any (hc.aside _ rfl)).bind fun _ _ => meets_pure trivial
    refine hlook.bind fun found _ => ?_
    refine (ih found.2 fun s hs => h s (List.mem_cons_of_mem _ hs)).bind fun more hmore => ?_
    refine meets_pure fun e he => ?_
    rcases List.mem_cons.1 he with rfl | he
    · exact h t (List.mem_cons_self ..) found.1
    · exact hmore e he

/-- Writing groups writes to each transaction the pair of its group. -/
theorem writeGroups_meets {groups : List Group}
    (h : ∀ g ∈ groups, ∀ id ∈ g.transactions, fine id g.key) (summary : BulkSummary)
    (usage : Usage) : (writeGroups user summary usage groups).Meets c fun _ => True := by
  induction groups generalizing summary usage with
  | nil => exact meets_pure trivial
  | cons g groups ih =>
    have ih := ih fun g' hg' => h g' (List.mem_cons_of_mem _ hg')
    have hwrite := hc.assign user g.category g.merchant g.transactions
    unfold writeGroups
    refine (meets_now (hc.aside _ rfl)).bind fun now _ => ?_
    refine (meets_tryCall (hwrite now (h g (List.mem_cons_self ..)))).bind fun answer _ => ?_
    cases answer with
    | ok updated => exact ih _ _
    | error e => exact (meets_record (hc.aside _ rfl)).bind fun _ _ => ih _ _

/-- **A bulk run keeps to a contract** under which it may read transactions and
write to each what is proposed for it: the groups hold the transactions whose
proposals they are. -/
theorem applyToExisting_meets_of {ids : Option (List Id)}
    (hread : (call (.eligible user ids includeManual)).Meets c fun ts => ∀ t ∈ ts,
      ∀ rules account, fine t.id (bulkOutcome rules includeManual t account).pair) :
    (applyToExisting user ids includeManual).Meets c fun _ => True := by
  unfold applyToExisting
  refine (activeRules_meets hc user).bind fun rules _ => ?_
  split
  · exact meets_pure trivial
  refine hread.bind fun ts hts => ?_
  refine (bulkOutcomes_meets hc rules [] fun t ht => hts t ht rules).bind fun outcomes ho => ?_
  have hgroups : ∀ g ∈ Group.ofOutcomes outcomes, ∀ id ∈ g.transactions, fine id g.key := by
    intro g hg id hid
    rw [(Group.divides_ofOutcomes outcomes).transactions g hg, Group.mem_sharing] at hid
    obtain ⟨o, hin, hkey⟩ := hid
    exact hkey ▸ ho _ hin
  refine (writeGroups_meets hc hgroups _ _).bind fun done _ => ?_
  refine (recordUsage_meets hc _).bind fun _ _ => ?_
  exact (meets_record (hc.aside _ rfl)).bind fun _ _ => meets_pure trivial

end

end Action

/-! ### Only what was proposed is written -/

/-- The pair of targets was proposed for one of the transactions that were seen,
by some rules and for some account. -/
def ProposedFor (sees : Transaction → Prop) (id : Id) (pair : Option Int64 × Option String) :
    Prop :=
  ∃ t, sees t ∧ t.id = id ∧
    ∃ rules account, (Action.bulkOutcome rules false t account).pair = pair

/-- No row is stored, and what is written to transactions was proposed for
them.  In return, `sees` holds of the transactions that are read. -/
def Contract.proposals (sees : Transaction → Prop) : Contract where
  allows
    | .call (.insertTransaction _) => False
    | .call (.updateTransaction _) => False
    | .call (.assign _ category merchant ids _) =>
      ∀ id ∈ ids, ProposedFor sees id (category, merchant)
    | _ => True
  promises
    | .call (.getTransaction _ _), answer => ∀ t, answer = .ok (some t) → sees t
    | .call (.eligible _ _ _), answer => ∀ ts, answer = .ok ts → ∀ t ∈ ts, sees t
    | _, _ => True

/-- Under this contract rules may be applied, and fine is what was proposed. -/
theorem Contract.letsApply_proposals (sees : Transaction → Prop) :
    (Contract.proposals sees).LetsApply (ProposedFor sees) where
  aside r hr := by
    cases r with
    | call call' => cases call' <;> trivial
    | _ => trivial
  assign _ _ _ _ _ h := h

namespace Action

variable {sees : Transaction → Prop}

/-- What is read of a transaction was seen. -/
theorem call_getTransaction_meets (user : String) (id : Id) :
    (call (.getTransaction user id)).Meets (.proposals sees) fun found =>
      ∀ t, found = some t → sees t :=
  meets_call trivial fun _ h t ht => h t (congrArg Except.ok ht)

/-- And so it is where a transaction that is missing is an error. -/
theorem getTransaction_meets (user : String) (id : Id) :
    (getTransaction user id).Meets (.proposals sees) sees := by
  unfold getTransaction
  refine (call_getTransaction_meets user id).bind fun found hfound => ?_
  cases found with
  | none => exact meets_throw
  | some t => exact meets_pure (hfound t rfl)

/-- An application to one transaction writes what is proposed for it as it was
seen. -/
theorem applyToTransaction_meets (user : String) (id : Id) :
    (applyToTransaction user id).Meets (.proposals sees) fun _ => True := by
  have hc := Contract.letsApply_proposals sees
  unfold applyToTransaction
  refine (call_getTransaction_meets user id).bind fun found hfound => ?_
  cases found with
  | none => exact meets_throw
  | some t =>
    dsimp only
    split
    · exact meets_pure trivial
    refine (activeRules_meets hc user).bind fun rules _ => ?_
    refine (meets_call_any trivial).bind fun account _ => ?_
    split
    · exact meets_pure trivial
    refine (meets_now trivial).bind fun now _ => ?_
    refine (meets_call_any ?_).bind fun updated _ => ?_
    · intro i hi
      exact ⟨t, hfound t rfl, (List.mem_singleton.1 hi).symm, rules, account, rfl⟩
    split
    · exact (recordUsage_meets hc _).bind fun _ _ => meets_pure trivial
    · exact meets_pure trivial

/-- A bulk run writes to each transaction what is proposed for it as it was
seen. -/
theorem applyToExisting_meets (user : String) (ids : Option (List Id)) :
    (applyToExisting user ids false).Meets (.proposals sees) fun _ => True :=
  applyToExisting_meets_of (Contract.letsApply_proposals sees) <|
    meets_call trivial fun ts h t ht rules account => ⟨t, h ts rfl t ht, rfl, rules, account, rfl⟩

/-- The actions that apply rules and leave alone what was set by hand, which may
run beside each other and beside edits. -/
inductive Applies : {α : Type} → Action α → Prop
  | one (user : String) (id : Id) : Applies (applyToTransaction user id)
  | bulk (user : String) (ids : Option (List Id)) : Applies (applyToExisting user ids false)

/-- **An application writes only what was proposed** for a transaction as it was
seen.  When that was, and whether the transaction has changed since, is left
open. -/
theorem Applies.meets {α : Type} {a : Action α} (h : a.Applies) (sees : Transaction → Prop) :
    a.Meets (.proposals sees) fun _ => True := by
  cases h with
  | one user id => exact applyToTransaction_meets user id
  | bulk user ids => exact applyToExisting_meets user ids

end Action
end LedgerRules
