/-
# Reading records out of JSON

A record is written as an object and read field by field.  An array stands for
the same record if its items are the fields in their order and there is none too
many; in an array only a field with a default may be missing, and only at the
end.

A field is *required*, *optional* (absent or null means nothing) or *defaulted*
(absent means the default, and null is an error).  Keys that a record does not
know are ignored.

Embeds how `Account`, `Transaction`, `Rule`, `NewRule`, `RuleUpdate` and the
other records are read by their derived `Deserialize`; `RuleConditions` reads
itself through `validate_value`.
-/

import LedgerRules.Id
import LedgerRules.Json.Value
import LedgerRules.Time.Instant

namespace LedgerRules
namespace Json

/-! ### Single values -/

/-- A text. -/
def asText? : Json → Option String
  | str s => some s
  | _ => none

/-- A truth value. -/
def asBool? : Json → Option Bool
  | bool b => some b
  | _ => none

/-- A whole number; one written with a point or an exponent is none. -/
def asInt? : Json → Option Int
  | num (.whole n) => some n
  | _ => none

/-- A natural number. -/
def asNat? (j : Json) : Option Nat :=
  j.asInt?.bind fun n => if 0 ≤ n then some n.toNat else none

/-- A whole number in the range of 64 bits with sign. -/
def asSigned? (j : Json) : Option Int :=
  j.asInt?.bind fun n => if Number.fitsSigned n then some n else none

/-- A whole number of 64 bits with sign. -/
def asInt64? (j : Json) : Option Int64 := j.asSigned?.map Int64.ofInt

/-- A whole number of 32 bits with sign. -/
def asInt32? (j : Json) : Option Int32 :=
  j.asInt?.bind fun n =>
    if -2147483648 ≤ n ∧ n ≤ 2147483647 then some (Int32.ofInt n) else none

/-- An identifier. -/
def asId? (j : Json) : Option Id := j.asText?.bind Id.parse?

/-- An instant. -/
def asInstant? (j : Json) : Option Instant := j.asText?.bind Instant.parse?

/-- A date. -/
def asDate? (j : Json) : Option Date := j.asText?.bind (Date.parse? true)

/-- A decimal, from a text with or without an exponent or from a number. -/
def asDecimal? : Json → Option Decimal
  | str s => (Decimal.parse? s).or (Decimal.parseScientific? s)
  | num (.whole n) => Decimal.ofInt? n
  | num (.double x) => Decimal.parse? (Decimal.positionalText x)
  | _ => none

/-- One of the names that `ofName?` knows, as a text or as the key of an object
whose one member is null. -/
def asName? {α : Type} (ofName? : String → Option α) : Json → Option α
  | str s => ofName? s
  | obj [(key, null)] => ofName? key
  | _ => none

/-- Any value. -/
def asAny? (j : Json) : Option Json := some j

/-! ### Records -/

/-- The fields of a record that are still to be read. -/
inductive Fields
  | named (members : List (String × Json))
  | inOrder (items : List Json)

/-- Reads some fields of a record. -/
abbrev Decode (α : Type) := StateT Fields Option α

/-- Takes the value of the next field, if there is one. -/
def Fields.take (key : String) : Fields → Option Json × Fields
  | named members => (member? members key, named members)
  | inOrder [] => (none, inOrder [])
  | inOrder (j :: rest) => (some j, inOrder rest)

/-- Whether a field may be left out. -/
def Fields.mayOmit : Fields → Bool
  | named _ => true
  | inOrder _ => false

/-- A required field. -/
def required {α : Type} (key : String) (read? : Json → Option α) : Decode α := fun fields =>
  match fields.take key with
  | (some j, rest) => (read? j).map (·, rest)
  | (none, _) => none

/-- An optional field. -/
def optional {α : Type} (key : String) (read? : Json → Option α) :
    Decode (Option α) := fun fields =>
  match fields.take key with
  | (some .null, rest) => some (none, rest)
  | (some j, rest) => (read? j).map fun a => (some a, rest)
  | (none, rest) => if fields.mayOmit then some (none, rest) else none

/-- A field with a default. -/
def defaulted {α : Type} (key : String) (value : α) (read? : Json → Option α) : Decode α :=
  fun fields =>
    match fields.take key with
    | (some j, rest) => (read? j).map (·, rest)
    | (none, rest) => some (value, rest)

/-- Reads a record. -/
def decode? {α : Type} (fields : Decode α) : Json → Option α
  | obj members => (fields (.named members)).map (·.1)
  | arr items =>
    match fields (.inOrder items) with
    | some (a, .inOrder []) => some a
    | _ => none
  | _ => none

/-! ### Writing fields -/

/-- An instant, or null in its absence. -/
def ofInstant? (t : Option Instant) : Json := ofText? (t.map Instant.text)

/-- A code of 64 bits, or null in its absence. -/
def ofInt64? (n : Option Int64) : Json := ofInt? (n.map Int64.toInt)

/-- A code of 32 bits, or null in its absence. -/
def ofInt32? (n : Option Int32) : Json := ofInt? (n.map Int32.toInt)

/-- A member that is left out in the absence of its value. -/
def memberIf (key : String) (value : Option Json) : List (String × Json) :=
  (value.map (key, ·)).toList

end Json
end LedgerRules
