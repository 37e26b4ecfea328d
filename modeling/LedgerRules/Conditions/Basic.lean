/-
# Rule conditions

A rule body joins conditions by a logic.  A condition tests one field of a
transaction or of its account: a text field by a text test, a numeric field by a
numeric test, so that neither kind of test can meet a field of the other family.

| operator | text | numeric |
| --- | --- | --- |
| `equals`, `not_equals` | yes | yes |
| `contains`, `not_contains`, `starts_with`, `ends_with`, `contains_any`, `regex` | yes | |
| `greater_than`, `less_than`, `between` | | yes |

Embeds `RuleConditions`, `Condition`, `Field`, `Operator`, `TextPredicate` and
`NumericPredicate` (section 3 of the specification, Data Model, and section 4.1,
Grammar & Validator), with `Operator.applies_to`, `Condition.to_json` and
`decimal_to_json`.  A body is read back through the validator, as
`RuleConditions.deserialize` does.
-/

import LedgerRules.Json.Value

namespace LedgerRules

/-- How the conditions of a rule are joined. -/
inductive Logic
  | and
  | or
  deriving DecidableEq, Repr

/-- A field that holds a text. -/
inductive TextField
  | merchant
  | description
  | accountType
  | accountName
  | bank
  | currency
  deriving DecidableEq, Repr

/-- A field that holds a number. -/
inductive NumericField
  | amount
  | direction
  deriving DecidableEq, Repr

/-- The two families of fields. -/
inductive Family
  | text
  | numeric
  deriving DecidableEq, Repr

/-- A field that a condition can test.  Which operators and which values go with
it is decided by its family. -/
inductive Field
  | text (f : TextField)
  | numeric (f : NumericField)
  deriving DecidableEq, Repr

/-- A comparison, of either family.  `equals` and `not_equals` are of both. -/
inductive Operator
  | equals
  | notEquals
  | contains
  | notContains
  | startsWith
  | endsWith
  | containsAny
  | regex
  | greaterThan
  | lessThan
  | between
  deriving DecidableEq, Repr

/-- A test of a text, with the values that its operator needs.  No other values
can be part of it. -/
inductive TextTest
  | equals (value : String)
  | notEquals (value : String)
  | contains (value : String)
  | notContains (value : String)
  | startsWith (value : String)
  | endsWith (value : String)
  | containsAny (values : List String)
  | regex (pattern : String)
  deriving DecidableEq, Repr

/-- A test of a number; both ends of `between` belong to it. -/
inductive NumericTest
  | equals (value : Decimal)
  | notEquals (value : Decimal)
  | greaterThan (value : Decimal)
  | lessThan (value : Decimal)
  | between (min max : Decimal)
  deriving DecidableEq, Repr

/-- A condition.  Letter case counts in a text condition only if it says so. -/
inductive Condition
  | text (field : TextField) (test : TextTest) (caseSensitive : Option Bool)
  | numeric (field : NumericField) (test : NumericTest)
  deriving DecidableEq, Repr

/-- The body of a rule.  A body without conditions cannot be accepted, but it
can be written down. -/
structure Conditions where
  logic : Logic
  items : List Condition
  deriving DecidableEq, Repr

namespace Logic

/-- The written form. -/
def name : Logic → String
  | and => "AND"
  | or => "OR"

/-- The logic a text names, whatever the case of its letters. -/
def ofName? (s : String) : Option Logic :=
  let letters := s.toList.map Char.toLower
  if letters = "and".toList then some and
  else if letters = "or".toList then some or
  else none

end Logic

namespace TextField

/-- Every text field. -/
def all : List TextField := [merchant, description, accountType, accountName, bank, currency]

/-- The written form. -/
def name : TextField → String
  | merchant => "merchant"
  | description => "description"
  | accountType => "account_type"
  | accountName => "account_name"
  | bank => "bank"
  | currency => "currency"

end TextField

namespace NumericField

/-- Every numeric field. -/
def all : List NumericField := [amount, direction]

/-- The written form. -/
def name : NumericField → String
  | amount => "amount"
  | direction => "direction"

end NumericField

namespace Family

/-- The name of a family. -/
def name : Family → String
  | text => "Text"
  | numeric => "Numeric"

end Family

namespace Field

/-- Every field. -/
def all : List Field := TextField.all.map text ++ NumericField.all.map numeric

/-- The written form. -/
def name : Field → String
  | text f => f.name
  | numeric f => f.name

/-- The field with a written form. -/
def ofName? (s : String) : Option Field := all.find? (·.name == s)

/-- The family of a field. -/
def family : Field → Family
  | text _ => .text
  | numeric _ => .numeric

end Field

namespace Operator

/-- Every operator. -/
def all : List Operator :=
  [equals, notEquals, contains, notContains, startsWith, endsWith, containsAny, regex,
    greaterThan, lessThan, between]

/-- The written form. -/
def name : Operator → String
  | equals => "equals"
  | notEquals => "not_equals"
  | contains => "contains"
  | notContains => "not_contains"
  | startsWith => "starts_with"
  | endsWith => "ends_with"
  | containsAny => "contains_any"
  | regex => "regex"
  | greaterThan => "greater_than"
  | lessThan => "less_than"
  | between => "between"

/-- The operator with a written form. -/
def ofName? (s : String) : Option Operator := all.find? (·.name == s)

/-- Whether an operator may test the fields of a family. -/
def appliesTo : Operator → Family → Bool
  | equals, _ => true
  | notEquals, _ => true
  | greaterThan, family => family == .numeric
  | lessThan, family => family == .numeric
  | between, family => family == .numeric
  | _, family => family == .text

/-- The text test with one value. -/
def textTest? (value : String) : Operator → Option TextTest
  | equals => some (.equals value)
  | notEquals => some (.notEquals value)
  | contains => some (.contains value)
  | notContains => some (.notContains value)
  | startsWith => some (.startsWith value)
  | endsWith => some (.endsWith value)
  | regex => some (.regex value)
  | _ => none

/-- The numeric test with one value. -/
def numericTest? (value : Decimal) : Operator → Option NumericTest
  | equals => some (.equals value)
  | notEquals => some (.notEquals value)
  | greaterThan => some (.greaterThan value)
  | lessThan => some (.lessThan value)
  | _ => none

end Operator

namespace TextTest

/-- The operator of a test. -/
def operator : TextTest → Operator
  | equals _ => .equals
  | notEquals _ => .notEquals
  | contains _ => .contains
  | notContains _ => .notContains
  | startsWith _ => .startsWith
  | endsWith _ => .endsWith
  | containsAny _ => .containsAny
  | regex _ => .regex

/-- The test with every value replaced. -/
def mapValues (f : String → String) : TextTest → TextTest
  | equals v => equals (f v)
  | notEquals v => notEquals (f v)
  | contains v => contains (f v)
  | notContains v => notContains (f v)
  | startsWith v => startsWith (f v)
  | endsWith v => endsWith (f v)
  | containsAny vs => containsAny (vs.map f)
  | regex v => regex (f v)

/-- The member of the written form that holds the values. -/
def valueMember : TextTest → String × Json
  | equals v => ("value", .str v)
  | notEquals v => ("value", .str v)
  | contains v => ("value", .str v)
  | notContains v => ("value", .str v)
  | startsWith v => ("value", .str v)
  | endsWith v => ("value", .str v)
  | regex v => ("value", .str v)
  | containsAny vs => ("values", .arr (vs.map .str))

end TextTest

namespace NumericTest

/-- The operator of a test. -/
def operator : NumericTest → Operator
  | equals _ => .equals
  | notEquals _ => .notEquals
  | greaterThan _ => .greaterThan
  | lessThan _ => .lessThan
  | between _ _ => .between

/-- Whether two tests compare in the same way with equal values. -/
def sameValue : NumericTest → NumericTest → Bool
  | equals a, equals b => a.sameValue b
  | notEquals a, notEquals b => a.sameValue b
  | greaterThan a, greaterThan b => a.sameValue b
  | lessThan a, lessThan b => a.sameValue b
  | between a c, between b d => a.sameValue b && c.sameValue d
  | _, _ => false

end NumericTest

namespace Condition

/-- The field that a condition tests. -/
def field : Condition → Field
  | text f _ _ => .text f
  | numeric f _ => .numeric f

/-- The operator of a condition. -/
def operator : Condition → Operator
  | text _ t _ => t.operator
  | numeric _ t => t.operator

/-- A number in the written form. -/
def numberJson (d : Decimal) : Json := .num (Number.ofDecimal d)

/-- The written form, keys in ascending order. -/
def toJson : Condition → Json
  | text f t caseSensitive =>
    .obj ((caseSensitive.map fun b => ("case_sensitive", Json.bool b)).toList ++
      [("field", .str f.name), ("operator", .str t.operator.name), t.valueMember])
  | numeric f (.between min max) =>
    .obj [("field", .str f.name), ("max_value", numberJson max), ("min_value", numberJson min),
      ("operator", .str Operator.between.name)]
  | numeric f (.equals v) => single f .equals v
  | numeric f (.notEquals v) => single f .notEquals v
  | numeric f (.greaterThan v) => single f .greaterThan v
  | numeric f (.lessThan v) => single f .lessThan v
where
  /-- The written form of a test with one number. -/
  single (f : NumericField) (op : Operator) (v : Decimal) : Json :=
    .obj [("field", .str f.name), ("operator", .str op.name), ("value", numberJson v)]

/-- Whether two conditions are equal, numbers compared by value. -/
def sameValue : Condition → Condition → Bool
  | text f t c, text f' t' c' => f == f' && t == t' && c == c'
  | numeric f t, numeric f' t' => f == f' && t.sameValue t'
  | _, _ => false

end Condition

namespace Conditions

/-- The written form. -/
def toJson (c : Conditions) : Json :=
  .obj [("conditions", .arr (c.items.map Condition.toJson)), ("logic", .str c.logic.name)]

/-- Whether two bodies are equal, numbers compared by value. -/
def sameValue (a b : Conditions) : Bool :=
  a.logic == b.logic && a.items.length == b.items.length &&
    (a.items.zip b.items).all fun (x, y) => x.sameValue y

end Conditions
end LedgerRules
