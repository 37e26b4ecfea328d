/-
# The normal form of a rule body

A text condition in normal form says whether case counts, and where it does not,
its values are in lowercase; the body then compares as it is stored.  The
pattern of `regex` stays as it was written, because lowercase letters would turn
`\D` into `\d`.

Embeds `normalize` and `normalize_condition` (section 4.2 of the specification,
Normalizer).
-/

import LedgerRules.Conditions.Basic
import LedgerRules.Text.Case

namespace LedgerRules

namespace TextTest

/-- The test with its values in lowercase, a pattern left as it is. -/
def lowered : TextTest → TextTest
  | regex pattern => regex pattern
  | t => t.mapValues Text.lower

end TextTest

namespace Condition

/-- The normal form of a condition.  Whether case counts is written down, and
where it does not, so is the text that is compared. -/
def normalize : Condition → Condition
  | numeric f t => numeric f t
  | text f t caseSensitive =>
    let sensitive := caseSensitive.getD false
    text f (if sensitive then t else t.lowered) (some sensitive)

end Condition

namespace Conditions

/-- The normal form of a body. -/
def normalize (c : Conditions) : Conditions :=
  { c with items := c.items.map Condition.normalize }

end Conditions
end LedgerRules
