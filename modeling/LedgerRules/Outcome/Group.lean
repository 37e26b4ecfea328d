/-
# Outcomes put together

Transactions with the same proposal are written together.  A group is the pair
of a category and a merchant, the transactions that get exactly that pair, and
how many of them each rule contributed to.  Groups stand in the order in which
their pairs appear first; transactions without a proposal are in no group.

Embeds `OutcomeGroup` and `group_outcomes` (section 4.5 of the specification,
Bulk Re-Application).
-/

import LedgerRules.Outcome.Basic

namespace LedgerRules

/-- How often rules contributed, by ascending identifier, as a `BTreeMap` keeps
it. -/
abbrev Usage := List (Id × Nat)

namespace Usage

/-- Adds to the count of a rule. -/
def add (rule : Id) (count : Nat) : Usage → Usage
  | [] => [(rule, count)]
  | (id, n) :: rest =>
    if rule = id then (id, n + count) :: rest
    else if rule.less id then (rule, count) :: (id, n) :: rest
    else (id, n) :: add rule count rest

/-- Adds one to the count of every rule in a list. -/
def addAll (rules : List Id) (usage : Usage) : Usage :=
  rules.foldl (fun usage rule => usage.add rule 1) usage

/-- Adds the counts of another usage. -/
def merge (usage more : Usage) : Usage :=
  more.foldl (fun usage (rule, count) => usage.add rule count) usage

end Usage

/-- Transactions that get the same category and merchant, to be written by one
statement. -/
structure Group where
  category : Option Int64
  merchant : Option String
  transactions : List Id
  usage : Usage
  deriving DecidableEq, Repr

namespace Group

/-- Whether a group has the pair of an outcome. -/
def fits (g : Group) (o : Outcome) : Bool := g.category == o.category && g.merchant == o.merchant

/-- Adds a transaction. -/
def push (g : Group) (transaction : Id) (o : Outcome) : Group :=
  { g with
    transactions := g.transactions ++ [transaction]
    usage := g.usage.addAll o.contributing }

/-- The group of one transaction. -/
def single (transaction : Id) (o : Outcome) : Group :=
  push ⟨o.category, o.merchant, [], []⟩ transaction o

/-- Adds a transaction to the group of its pair; a new pair stands last.  So
groups come in the order of the first transaction of each. -/
def insert (transaction : Id) (o : Outcome) : List Group → List Group
  | [] => [single transaction o]
  | g :: rest => if g.fits o then g.push transaction o :: rest else g :: insert transaction o rest

/-- Groups the transactions that have a proposal. -/
def ofOutcomes (outcomes : List (Id × Outcome)) : List Group :=
  outcomes.foldl (fun groups (transaction, o) =>
    if o.isEmpty then groups else insert transaction o groups) []

/-- The written form. -/
def toJson (g : Group) : Json :=
  .object [("category_id", .ofInt64? g.category), ("merchant", .ofText? g.merchant),
    ("transaction_ids", .arr (g.transactions.map fun id => .str id.text)),
    ("rule_usage", .object (g.usage.map fun (id, n) => (id.text, Json.ofNat n)))]

end Group
end LedgerRules
