/-
# Calls on a store of records

What an action that is a single call on a `Memory` yields.  A call that reads
answers from the store and leaves it as it is; one that writes leaves the store
its answer comes with.
-/

import LedgerRules.Program.Ledger
import LedgerRules.Proofs.Program.Running
import LedgerRules.Proofs.Store.Records

namespace LedgerRules
namespace Action

variable {w : World Memory} {user : String} {id : Id}

/-! ### Reading -/

/-- Asking for an account finds it in the store and changes nothing. -/
theorem yields_getAccount {Q : Except Error (Option Account) → World Memory → Prop} :
    (call (.getAccount user id)).Yields w Q ↔ Q (.ok (w.store.account? user id)) w := Iff.rfl

/-- So does asking for what tests may see of it. -/
theorem yields_accountView {Q : Except Error (Option AccountView) → World Memory → Prop} :
    (call (.accountView user id)).Yields w Q ↔
      Q (.ok ((w.store.account? user id).map Account.view)) w := Iff.rfl

/-- Asking for a transaction finds it in the store and changes nothing. -/
theorem yields_getTransaction {Q : Except Error (Option Transaction) → World Memory → Prop} :
    (call (.getTransaction user id)).Yields w Q ↔ Q (.ok (w.store.transaction? user id)) w :=
  Iff.rfl

/-- Asking for the transactions of a bulk run selects them from the store and
changes nothing. -/
theorem yields_eligible {ids : Option (List Id)} {includeManual : Bool}
    {Q : Except Error (List Transaction) → World Memory → Prop} :
    (call (.eligible user ids includeManual)).Yields w Q ↔
      Q (.ok (w.store.eligibleOf user ids includeManual)) w := Iff.rfl

/-- Asking for a rule finds it in the store and changes nothing. -/
theorem yields_getRule {Q : Except Error (Option Rule) → World Memory → Prop} :
    (call (.getRule user id)).Yields w Q ↔ Q (.ok (w.store.rule? user id)) w := Iff.rfl

/-- The rules of a user are listed whole: a store of records has no row that
cannot be read. -/
theorem yields_listRules {Q : Except Error Listing → World Memory → Prop} :
    (call (.listRules user)).Yields w Q ↔ Q (.ok ⟨w.store.rulesOf user, []⟩) w := Iff.rfl

/-- So are the active ones. -/
theorem yields_activeRules {Q : Except Error Listing → World Memory → Prop} :
    (call (.activeRules user)).Yields w Q ↔ Q (.ok ⟨w.store.activeRulesOf user, []⟩) w := Iff.rfl

/-- The greatest priority is that among all rules of the user, active or not. -/
theorem yields_maxPriority {Q : Except Error (Option Int32) → World Memory → Prop} :
    (call (.maxPriority user)).Yields w Q ↔
      Q (.ok (Memory.maxPriority (w.store.rules.filter (·.user == user)))) w := Iff.rfl

/-! ### Writing -/

/-- An account is put in behind the others. -/
theorem yields_insertAccount {account : Account} {Q : Except Error Unit → World Memory → Prop} :
    (call (.insertAccount account)).Yields w Q ↔
      Q (.ok ()) (w.withStore { w.store with accounts := w.store.accounts ++ [account] }) := Iff.rfl

/-- A transaction is put in behind the others, unless its identifier is taken by
one of any user. -/
theorem yields_insertTransaction {t : Transaction} {Q : Except Error Unit → World Memory → Prop} :
    (call (.insertTransaction t)).Yields w Q ↔
      if w.store.transactions.any (·.id == t.id)
      then Q (.error (.store (.duplicateTransaction t.id))) w
      else Q (.ok ())
        (w.withStore { w.store with transactions := w.store.transactions ++ [t] }) := by
  show Q (w.store.answer (.insertTransaction t)).1
    (w.withStore (w.store.answer (.insertTransaction t)).2) ↔ _
  dsimp only [Memory.answer]
  split <;> rfl

/-- A transaction that is there is replaced in its place. -/
theorem yields_updateTransaction {t : Transaction} {Q : Except Error Unit → World Memory → Prop}
    (h : (w.store.transaction? t.user t.id).isSome = true) :
    (call (.updateTransaction t)).Yields w Q ↔
      Q (.ok ()) (w.withStore { w.store with
        transactions := modifyFirst (fun x => x.id == t.id && x.user == t.user) (fun _ => t)
          w.store.transactions }) := by
  show Q (w.store.answer (.updateTransaction t)).1
    (w.withStore (w.store.answer (.updateTransaction t)).2) ↔ _
  obtain ⟨old, ho⟩ := Option.isSome_iff_exists.1 h
  dsimp only [Memory.answer]
  rw [ho]

/-- A grouped write answers and leaves what the store makes of it. -/
theorem yields_assign {category : Option Int64} {merchant : Option String} {ids : List Id}
    {now : Instant} {Q : Except Error Nat → World Memory → Prop} :
    (call (.assign user category merchant ids now)).Yields w Q ↔
      Q (w.store.assign user category merchant ids now).1
        (w.withStore (w.store.assign user category merchant ids now).2) := Iff.rfl

/-- If a failure is let pass, it is what the grouped write yields, and the
action goes on. -/
theorem yields_tryAssign {category : Option Int64} {merchant : Option String} {ids : List Id}
    {now : Instant} {Q : Except Error (Except Error Nat) → World Memory → Prop} :
    (tryCall (.assign user category merchant ids now)).Yields w Q ↔
      Q (.ok (w.store.assign user category merchant ids now).1)
        (w.withStore (w.store.assign user category merchant ids now).2) := Iff.rfl

/-- A rule is put in behind the others, unless its identifier is taken by one of
any user. -/
theorem yields_insertRule {r : Rule} {Q : Except Error Unit → World Memory → Prop} :
    (call (.insertRule r)).Yields w Q ↔
      if w.store.rules.any (·.id == r.id)
      then Q (.error (.store (.duplicateRule r.id))) w
      else Q (.ok ()) (w.withStore { w.store with rules := w.store.rules ++ [r] }) := by
  show Q (w.store.answer (.insertRule r)).1 (w.withStore (w.store.answer (.insertRule r)).2) ↔ _
  dsimp only [Memory.answer]
  split <;> rfl

/-- A rule that is there is replaced in its place. -/
theorem yields_updateRule {r : Rule} {Q : Except Error Unit → World Memory → Prop}
    (h : (w.store.rule? r.user r.id).isSome = true) :
    (call (.updateRule r)).Yields w Q ↔
      Q (.ok ()) (w.withStore { w.store with
        rules := modifyFirst (fun x => x.id == r.id && x.user == r.user) (·.replace r)
          w.store.rules }) := by
  show Q (w.store.answer (.updateRule r)).1 (w.withStore (w.store.answer (.updateRule r)).2) ↔ _
  obtain ⟨old, ho⟩ := Option.isSome_iff_exists.1 h
  dsimp only [Memory.answer]
  rw [ho]

/-- A rule is taken out if it belongs to the user, and the answer tells whether
there was one. -/
theorem yields_deleteRule {Q : Except Error Bool → World Memory → Prop} :
    (call (.deleteRule user id)).Yields w Q ↔
      Q (.ok (w.store.rules.any fun r => r.id == id && r.user == user))
        (w.withStore { w.store with
          rules := w.store.rules.filter fun r => !(r.id == id && r.user == user) }) := Iff.rfl

/-! ### Records that have to be there -/

/-- A transaction that is there is what asking for it yields. -/
theorem yields_transaction_of_some {t : Transaction}
    {Q : Except Error Transaction → World Memory → Prop}
    (h : w.store.transaction? user id = some t) :
    (getTransaction user id).Yields w Q ↔ Q (.ok t) w := by
  unfold getTransaction
  rw [yields_bind, yields_getTransaction, goes_ok, h]
  exact Iff.rfl

/-- One that is not there is reported as missing. -/
theorem yields_transaction_of_none {Q : Except Error Transaction → World Memory → Prop}
    (h : w.store.transaction? user id = none) :
    (getTransaction user id).Yields w Q ↔ Q (.error (.missing (.transaction id))) w := by
  unfold getTransaction
  rw [yields_bind, yields_getTransaction, goes_ok, h]
  exact Iff.rfl

/-- A rule that is there is what asking for it yields. -/
theorem yields_rule_of_some {r : Rule} {Q : Except Error Rule → World Memory → Prop}
    (h : w.store.rule? user id = some r) : (getRule user id).Yields w Q ↔ Q (.ok r) w := by
  unfold getRule
  rw [yields_bind, yields_getRule, goes_ok, h]
  exact Iff.rfl

/-- One that is not there is reported as missing. -/
theorem yields_rule_of_none {Q : Except Error Rule → World Memory → Prop}
    (h : w.store.rule? user id = none) :
    (getRule user id).Yields w Q ↔ Q (.error (.missing (.rule id))) w := by
  unfold getRule
  rw [yields_bind, yields_getRule, goes_ok, h]
  exact Iff.rfl

/-- A store of records skips no rule. -/
theorem yields_rules {Q : Except Error (List Rule) → World Memory → Prop} :
    (activeRules user).Yields w Q ↔ Q (.ok (w.store.activeRulesOf user)) w := by
  unfold activeRules noticeSkipped
  rw [yields_bind, yields_activeRules, goes_ok, yields_bind]
  exact Iff.rfl

end Action
end LedgerRules
