/-
# A store of records

`Memory` keeps records in the order they were inserted.  Its grouped writes can
be made to fail for chosen pairs of a category and a merchant, and every attempt
is noted.

Rules are listed by priority and then by age, accounts by name, transactions
newest first; records that agree in that stay in the order they were inserted.

Embeds `MemoryStore`: its methods for `RuleStore` and `LedgerStore`,
`sorted_rules`, and the two that tests use, `fail_group_updates` and
`group_writes`.
-/

import LedgerRules.Store.Call

namespace LedgerRules

/-- One grouped write that was attempted, as `MemoryStore` puts it on record for
tests. -/
structure Attempt where
  category : Option Int64
  merchant : Option String
  transactions : List Id
  succeeded : Bool
  deriving DecidableEq, Repr

/-- A store of records (`MemoryStore`).  Grouped writes of the pairs in
`failing` fail; this is how a test makes them fail. -/
structure Memory where
  accounts : List Account := []
  transactions : List Transaction := []
  rules : List Rule := []
  failing : List (Option Int64 × Option String) := []
  attempts : List Attempt := []
  deriving DecidableEq, Repr

/-- Whether a rule comes before another or level with it: the lower priority
first, then the older rule. -/
def Rule.precedes (a b : Rule) : Bool :=
  a.priority < b.priority || (a.priority == b.priority && a.createdAt.atMost b.createdAt)

/-- Whether a transaction comes before another or level with it, newest first. -/
def Transaction.precedes (a b : Transaction) : Bool :=
  b.date.day < a.date.day || (a.date == b.date && b.createdAt.atMost a.createdAt)

/-- Whether an account comes before another or level with it, by name. -/
def Account.precedes (a b : Account) : Bool := !(b.name < a.name)

/-- The transaction with the targets that are given.  A target that is not given
stays, and so do the marks. -/
def Transaction.assign (t : Transaction) (category : Option Int64) (merchant : Option String)
    (now : Instant) : Transaction :=
  { t with
    category := category.or t.category
    merchant := merchant.or t.merchant
    updatedAt := now }

/-- The rule after it was applied a number of times. -/
def Rule.applied (r : Rule) (count : Nat) (now : Instant) : Rule :=
  { r with timesApplied := r.timesApplied + count, lastAppliedAt := some now }

/-- A rule in place of another; how often the other was applied stays.  So an
update cannot lose a count that came in between. -/
def Rule.replace (old new : Rule) : Rule :=
  { new with timesApplied := old.timesApplied, lastAppliedAt := old.lastAppliedAt }

/-- Changes the first element that a test holds for.  Where identifiers are
distinct there is no other one. -/
def modifyFirst {α : Type} (test : α → Bool) (change : α → α) : List α → List α
  | [] => []
  | a :: rest => if test a then change a :: rest else a :: modifyFirst test change rest

namespace Memory

/-- The rules of a user, in the order they are looked at. -/
def rulesOf (m : Memory) (user : String) : List Rule :=
  (m.rules.filter (·.user == user)).mergeSort Rule.precedes

/-- The active rules of a user, in the order they are looked at. -/
def activeRulesOf (m : Memory) (user : String) : List Rule :=
  (m.rules.filter fun r => r.user == user && r.active).mergeSort Rule.precedes

/-- The rule of a user with an identifier. -/
def rule? (m : Memory) (user : String) (id : Id) : Option Rule :=
  m.rules.find? fun r => r.id == id && r.user == user

/-- The account of a user with an identifier. -/
def account? (m : Memory) (user : String) (id : Id) : Option Account :=
  m.accounts.find? fun a => a.id == id && a.user == user

/-- The transaction of a user with an identifier. -/
def transaction? (m : Memory) (user : String) (id : Id) : Option Transaction :=
  m.transactions.find? fun t => t.id == id && t.user == user

/-- The transactions of a user, newest first. -/
def transactionsOf (m : Memory) (user : String) (account : Option Id) (limit : Option Nat) :
    List Transaction :=
  let found := (m.transactions.filter fun t => t.user == user && account.all (t.account == ·))
  let sorted := found.mergeSort Transaction.precedes
  match limit with
  | some n => sorted.take n
  | none => sorted

/-- The transactions of a user that rules may be applied to, in the order of the
store (`fetch_transactions_eligible_for_rule_application`). -/
def eligibleOf (m : Memory) (user : String) (ids : Option (List Id)) (includeManual : Bool) :
    List Transaction :=
  m.transactions.filter fun t =>
    t.user == user && (includeManual || !t.fullyManual) && ids.all (·.contains t.id)

/-- Whether a grouped write reaches a transaction. -/
def reaches (user : String) (ids : List Id) (t : Transaction) : Bool :=
  t.user == user && ids.contains t.id

/-- Writes a category and a merchant to transactions; absent targets stay
(`persist_grouped_update`).  The answer is how many were reached.  A pair that
is to fail changes no transaction. -/
def assign (m : Memory) (user : String) (category : Option Int64) (merchant : Option String)
    (ids : List Id) (now : Instant) : Except Error Nat × Memory :=
  let fails := m.failing.contains (category, merchant)
  let m := { m with attempts := m.attempts ++ [⟨category, merchant, ids, !fails⟩] }
  if fails then (.error (.store .groupRejected), m)
  else (.ok (m.transactions.countP (reaches user ids)), { m with
    transactions := m.transactions.map fun t =>
      if reaches user ids t then t.assign category merchant now else t })

/-- The greatest priority in a list of rules. -/
def maxPriority (rules : List Rule) : Option Int32 :=
  rules.foldl (fun found r => some (match found with
    | some p => if p < r.priority then r.priority else p
    | none => r.priority)) none

/-- The answer to a call.  This is `MemoryStore`, method by method. -/
def answer (call : Call) (m : Memory) : Except Error call.Answer × Memory :=
  match call with
  | .insertAccount a => (.ok (), { m with accounts := m.accounts ++ [a] })
  | .listAccounts user =>
    (.ok ((m.accounts.filter (·.user == user)).mergeSort Account.precedes), m)
  | .getAccount user id => (.ok (m.account? user id), m)
  | .accountView user id => (.ok ((m.account? user id).map Account.view), m)
  | .insertTransaction t =>
    if m.transactions.any (·.id == t.id) then (.error (.store (.duplicateTransaction t.id)), m)
    else (.ok (), { m with transactions := m.transactions ++ [t] })
  | .updateTransaction t =>
    match m.transaction? t.user t.id with
    | none => (.error (.missing (.transaction t.id)), m)
    | some _ => (.ok (), { m with
        transactions := modifyFirst (fun x => x.id == t.id && x.user == t.user) (fun _ => t)
          m.transactions })
  | .getTransaction user id => (.ok (m.transaction? user id), m)
  | .listTransactions user account limit => (.ok (m.transactionsOf user account limit), m)
  | .eligible user ids includeManual => (.ok (m.eligibleOf user ids includeManual), m)
  | .assign user category merchant ids now => m.assign user category merchant ids now
  | .insertRule r =>
    if m.rules.any (·.id == r.id) then (.error (.store (.duplicateRule r.id)), m)
    else (.ok (), { m with rules := m.rules ++ [r] })
  | .updateRule r =>
    match m.rule? r.user r.id with
    | none => (.error (.missing (.rule r.id)), m)
    | some _ => (.ok (), { m with
        rules := modifyFirst (fun x => x.id == r.id && x.user == r.user) (·.replace r) m.rules })
  | .deleteRule user id =>
    let hit (r : Rule) : Bool := r.id == id && r.user == user
    (.ok (m.rules.any hit), { m with rules := m.rules.filter (!hit ·) })
  | .getRule user id => (.ok (m.rule? user id), m)
  | .listRules user => (.ok ⟨m.rulesOf user, []⟩, m)
  | .activeRules user => (.ok ⟨m.activeRulesOf user, []⟩, m)
  | .maxPriority user => (.ok (maxPriority (m.rules.filter (·.user == user))), m)
  | .recordApplications id count now =>
    (.ok (), if count = 0 then m
      else { m with rules := modifyFirst (·.id == id) (·.applied count now) m.rules })

instance : Store Memory := ⟨answer⟩

end Memory
end LedgerRules
