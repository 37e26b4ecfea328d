/-
# Which transactions a body matches

`Facts` is what conditions see of a transaction and its account.  A condition on
a field that is absent does not match, whatever its operator.  Text is compared
in lowercase unless case counts; a pattern is matched against the text as it is,
and one that cannot be read matches nothing.  A body without conditions matches
nothing.

Embeds `TransactionContext` with `text` and `number`, and `evaluate`,
`evaluate_condition`, `evaluate_text` and `evaluate_numeric` (section 4.3 of the
specification, Evaluator).
-/

import LedgerRules.Conditions.Basic
import LedgerRules.Pattern.Reader
import LedgerRules.Text.Find

namespace LedgerRules

/-- The fields of a transaction and its account, as far as they are known. -/
structure Facts where
  merchant : Option String := none
  description : Option String := none
  direction : Option Int32 := none
  accountType : Option String := none
  accountName : Option String := none
  bank : Option String := none
  currency : Option String := none
  amount : Option Decimal := none
  deriving DecidableEq

namespace Facts

/-- The text in a field.  It is compared as it is, without taking blanks away.
-/
def text? (facts : Facts) : TextField → Option String
  | .merchant => facts.merchant
  | .description => facts.description
  | .accountType => facts.accountType
  | .accountName => facts.accountName
  | .bank => facts.bank
  | .currency => facts.currency

/-- The number in a field. -/
def number? (facts : Facts) : NumericField → Option Decimal
  | .amount => facts.amount
  | .direction => facts.direction.map Decimal.ofInt32

end Facts

namespace TextTest

/-- Whether a text passes a test that compares as `fold` leaves the texts.  A
pattern is matched against the text as it is. -/
def passes (sensitive : Bool) (raw : String) (t : TextTest) : Bool :=
  let fold (s : String) : String := if sensitive then s else Text.lower s
  let value := fold raw
  match t with
  | equals v => value == fold v
  | notEquals v => value != fold v
  | contains v => Text.contains value (fold v)
  | notContains v => !Text.contains value (fold v)
  | startsWith v => Text.startsWith value (fold v)
  | endsWith v => Text.endsWith value (fold v)
  | containsAny vs => vs.any fun v => Text.contains value (fold v)
  | regex pattern => (Pattern.compile? (!sensitive) pattern).any (·.isMatch raw)

end TextTest

namespace NumericTest

/-- Whether a number passes a test. -/
def passes (value : Decimal) : NumericTest → Bool
  | equals v => value.sameValue v
  | notEquals v => !value.sameValue v
  | greaterThan v => v.less value
  | lessThan v => value.less v
  | between min max => min.atMost value && value.atMost max

end NumericTest

namespace Condition

/-- Whether a condition matches (`evaluate_condition`).  Where the field is
absent none does, not even one that asks for a difference. -/
def holds (facts : Facts) : Condition → Bool
  | text f t caseSensitive => (facts.text? f).any fun raw => t.passes (caseSensitive.getD false) raw
  | numeric f t => (facts.number? f).any fun value => t.passes value

end Condition

namespace Conditions

/-- Whether a body matches (`evaluate`).  One without conditions does not,
whatever its logic. -/
def holds (c : Conditions) (facts : Facts) : Bool :=
  !c.items.isEmpty &&
    match c.logic with
    | .and => c.items.all (·.holds facts)
    | .or => c.items.any (·.holds facts)

end Conditions
end LedgerRules
