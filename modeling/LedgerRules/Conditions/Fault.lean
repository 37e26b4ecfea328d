/-
# What can be wrong with a rule body

A fault is a cause and the place it was found at.  The places of a body are its
logic, its list of conditions, and the parts of one condition; the part of a
condition does not depend on where the condition stands.  Each cause has one
code and one message.  A pattern that cannot be read is part of its cause; what
a reader of patterns has to say about it is not part of the message.

Embeds `ErrorCode` and `ValidationError`, with the texts and the field paths
that the methods of `Validator` push (section 4.1 of the specification, Grammar
& Validator).  A place is written by `Place.path` as the specification has it,
`conditions[i].<prop>`.
-/

import LedgerRules.Conditions.Basic

namespace LedgerRules

/-- The kind of a fault, for programs to tell faults apart.  Messages are for
people. -/
inductive FaultCode
  | invalidJson
  | requiredField
  | invalidValue
  | invalidField
  | invalidOperator
  | invalidOperatorForField
  | conflictingFields
  | invalidRange
  | invalidFieldForType
  | invalidRegex
  deriving DecidableEq, Repr

/-- A part of one condition. -/
inductive Part
  | whole
  | property (name : String)
  | entry (name : String) (index : Nat)
  deriving DecidableEq, Repr

/-- A place in a rule body.  Conditions are counted from zero. -/
inductive Place
  | logic
  | conditions
  | item (index : Nat) (part : Part)
  deriving DecidableEq, Repr

/-- What is wrong.  There is one constructor for each message, with what the
message tells. -/
inductive Cause
  | notJson
  | notObject
  | logicMissing
  | logicUnknown (name : String)
  | logicNotText
  | noConditions
  | conditionNotObject
  | fieldMissing
  | fieldUnknown (name : String)
  | fieldNotText
  | operatorMissing
  | operatorUnknown (name : String)
  | operatorNotText
  | operatorMismatch (op : Operator) (field : Field)
  | propertyMissing (property : String) (op : Operator)
  | valuesEmpty
  | valuesNotTexts
  | valueBesideValues
  | valuesWithout (op : Operator)
  | valueNotText
  | valueBesideBounds
  | notNumber (property : String)
  | boundsReversed
  | boundNegative (property : String)
  | directionOutOfRange (property : String)
  | caseNotBool
  | caseOnNumeric (field : NumericField)
  | currencyModifier
  | patternUnreadable (pattern : String)
  deriving DecidableEq, Repr

/-- Something wrong with a part of one condition.  Where the condition stands in
its body is not part of it. -/
structure Defect where
  part : Part
  cause : Cause
  deriving DecidableEq, Repr

/-- Something wrong with a rule body. -/
structure Fault where
  place : Place
  cause : Cause
  deriving DecidableEq, Repr

namespace FaultCode

/-- Every code. -/
def all : List FaultCode :=
  [invalidJson, requiredField, invalidValue, invalidField, invalidOperator,
    invalidOperatorForField, conflictingFields, invalidRange, invalidFieldForType, invalidRegex]

/-- The written form. -/
def name : FaultCode → String
  | invalidJson => "INVALID_JSON"
  | requiredField => "REQUIRED_FIELD"
  | invalidValue => "INVALID_VALUE"
  | invalidField => "INVALID_FIELD"
  | invalidOperator => "INVALID_OPERATOR"
  | invalidOperatorForField => "INVALID_OPERATOR_FOR_FIELD"
  | conflictingFields => "CONFLICTING_FIELDS"
  | invalidRange => "INVALID_RANGE"
  | invalidFieldForType => "INVALID_FIELD_FOR_TYPE"
  | invalidRegex => "INVALID_REGEX"

/-- The code with a written form. -/
def ofName? (s : String) : Option FaultCode := all.find? (·.name == s)

end FaultCode

namespace Place

/-- The path of a place, such as `conditions[1].max_value`. -/
def path : Place → String
  | logic => "logic"
  | conditions => "conditions"
  | item i .whole => s!"conditions[{i}]"
  | item i (.property name) => s!"conditions[{i}].{name}"
  | item i (.entry name j) => s!"conditions[{i}].{name}[{j}]"

end Place

namespace Cause

/-- The code of a cause. -/
def code : Cause → FaultCode
  | notJson => .invalidJson
  | notObject => .invalidJson
  | logicMissing => .requiredField
  | logicUnknown _ => .invalidValue
  | logicNotText => .invalidValue
  | noConditions => .requiredField
  | conditionNotObject => .invalidValue
  | fieldMissing => .requiredField
  | fieldUnknown _ => .invalidField
  | fieldNotText => .invalidField
  | operatorMissing => .requiredField
  | operatorUnknown _ => .invalidOperator
  | operatorNotText => .invalidOperator
  | operatorMismatch _ _ => .invalidOperatorForField
  | propertyMissing _ _ => .requiredField
  | valuesEmpty => .requiredField
  | valuesNotTexts => .invalidValue
  | valueBesideValues => .conflictingFields
  | valuesWithout _ => .conflictingFields
  | valueNotText => .invalidValue
  | valueBesideBounds => .conflictingFields
  | notNumber _ => .invalidValue
  | boundsReversed => .invalidRange
  | boundNegative _ => .invalidValue
  | directionOutOfRange _ => .invalidValue
  | caseNotBool => .invalidValue
  | caseOnNumeric _ => .invalidFieldForType
  | currencyModifier => .invalidFieldForType
  | patternUnreadable _ => .invalidRegex

/-- The message of a cause. -/
def message : Cause → String
  | notJson => "Rule conditions are not valid JSON"
  | notObject => "Rule conditions must be a JSON object"
  | logicMissing => "logic is required"
  | logicUnknown name => s!"logic must be AND or OR, got '{name}'"
  | logicNotText => "logic must be AND or OR"
  | noConditions => "at least one condition is required"
  | conditionNotObject => "condition must be an object"
  | fieldMissing => "field is required"
  | fieldUnknown name => s!"unknown field '{name}'"
  | fieldNotText => "field must be a string"
  | operatorMissing => "operator is required"
  | operatorUnknown name => s!"unknown operator '{name}'"
  | operatorNotText => "operator must be a string"
  | operatorMismatch op field =>
    s!"operator '{op.name}' cannot be used with field '{field.name}'"
  | propertyMissing property op => s!"{property} is required for {op.name}"
  | valuesEmpty => "values must contain at least one entry"
  | valuesNotTexts => "values must be a list of strings"
  | valueBesideValues => "value cannot be combined with contains_any; use values"
  | valuesWithout op => s!"values can only be used with contains_any, not {op.name}"
  | valueNotText => "value must be a string"
  | valueBesideBounds => "value cannot be combined with between; use min_value and max_value"
  | notNumber property => s!"{property} must be a number"
  | boundsReversed => "min_value must be less than max_value"
  | boundNegative property => s!"{property} for amount cannot be negative"
  | directionOutOfRange property => s!"{property} for direction must be between 0 and 2"
  | caseNotBool => "case_sensitive must be true or false"
  | caseOnNumeric field => s!"case_sensitive does not apply to numeric field '{field.name}'"
  | currencyModifier => "currency is not a condition modifier; use the currency field instead"
  | patternUnreadable _ => "invalid regular expression"

end Cause

namespace Defect

/-- The defect of the condition at an index, as a fault of the body. -/
def inItem (index : Nat) (d : Defect) : Fault := ⟨.item index d.part, d.cause⟩

end Defect

namespace Fault

/-- The code of a fault. -/
def code (f : Fault) : FaultCode := f.cause.code

/-- The text of a fault: path, message and code. -/
def text (f : Fault) : String := s!"{f.place.path}: {f.cause.message} ({f.code.name})"

/-- The written form. -/
def toJson (f : Fault) : Json :=
  .obj [("code", .str f.code.name), ("field", .str f.place.path), ("message", .str f.cause.message)]

end Fault
end LedgerRules
