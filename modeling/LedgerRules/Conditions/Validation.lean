/-
# Validating a rule body

A JSON value is checked against the form of rule bodies.  Checking does not stop
at the first fault: the logic is checked, then every condition on its own, and
all faults are reported in the order of the document.  A body without faults is
accepted in normal form.

`checkItem` checks one condition.  Field and operator are checked first; unless
both are known and the operator applies to the field, nothing else of the
condition is looked at.  A property that is null counts as absent, save that
`currency` may not be named at all.

Embeds `validate_value` and `validate_rule_conditions` with the methods of
`Validator`: `logic`, `conditions`, `condition`, `text_condition`,
`numeric_condition`, `reject_currency_modifier`, `text_value`, `text_values` and
`number` (section 4.1 of the specification, Grammar & Validator).
`json_to_decimal` reads its numbers.
-/

import LedgerRules.Conditions.Fault
import LedgerRules.Conditions.Normal
import LedgerRules.Json.Reader
import LedgerRules.Pattern.Reader

namespace LedgerRules

/-- The members of a JSON object. -/
abbrev Members := List (String × Json)

/-- What was found wrong, and what was read if it could be read.  Both can be
there, since checking goes on after a fault. -/
structure Checked (α : Type) where
  defects : List Defect
  value : Option α

namespace Checked

/-- A value with nothing wrong. -/
def ok {α : Type} (value : α) : Checked α := ⟨[], some value⟩

/-- A single defect and no value. -/
def fail {α : Type} (part : Part) (cause : Cause) : Checked α := ⟨[⟨part, cause⟩], none⟩

end Checked

namespace Validation

/-- The value of a property that is there and not null (`is_present`). -/
def present? (members : Members) (key : String) : Option Json :=
  match Json.member? members key with
  | some .null => none
  | j => j

/-- A defect at a property, where a condition holds. -/
def defectIf (wrong : Bool) (key : String) (cause : Cause) : List Defect :=
  if wrong then [⟨.property key, cause⟩] else []

/-- Checks the field of a condition. -/
def checkField (members : Members) : Checked Field :=
  match present? members "field" with
  | none => .fail (.property "field") .fieldMissing
  | some (.str name) =>
    match Field.ofName? name with
    | some f => .ok f
    | none => .fail (.property "field") (.fieldUnknown name)
  | some _ => .fail (.property "field") .fieldNotText

/-- Checks the operator of a condition. -/
def checkOperator (members : Members) : Checked Operator :=
  match present? members "operator" with
  | none => .fail (.property "operator") .operatorMissing
  | some (.str name) =>
    match Operator.ofName? name with
    | some op => .ok op
    | none => .fail (.property "operator") (.operatorUnknown name)
  | some _ => .fail (.property "operator") .operatorNotText

/-- Checks the one value of a text test; a number counts as its text. -/
def checkTextValue (op : Operator) (members : Members) : Checked String :=
  match present? members "value" with
  | none => .fail (.property "value") (.propertyMissing "value" op)
  | some (.str s) => .ok s
  | some (.num n) => .ok n.toText
  | some _ => .fail (.property "value") .valueNotText

/-- Checks the entries of a list of texts, the first of them at `index`. -/
def checkEntries (index : Nat) : List Json → Checked (List String)
  | [] => .ok []
  | j :: rest =>
    let more := checkEntries (index + 1) rest
    match j with
    | .str s => ⟨more.defects, more.value.map (s :: ·)⟩
    | _ => ⟨⟨.entry "values" index, .valuesNotTexts⟩ :: more.defects, none⟩

/-- Checks the list of values of `contains_any`. -/
def checkTextValues (members : Members) : Checked (List String) :=
  match present? members "values" with
  | none => .fail (.property "values") (.propertyMissing "values" .containsAny)
  | some (.arr []) => .fail (.property "values") .valuesEmpty
  | some (.arr items) => checkEntries 0 items
  | some _ => .fail (.property "values") .valuesNotTexts

/-- Checks the values of a text test. -/
def checkTextTest (op : Operator) (members : Members) : Checked TextTest :=
  if op = .containsAny then
    let values := checkTextValues members
    ⟨values.defects ++ defectIf (present? members "value").isSome "value" .valueBesideValues,
      values.value.map .containsAny⟩
  else
    let value := checkTextValue op members
    ⟨value.defects ++ defectIf (present? members "values").isSome "values" (.valuesWithout op),
      value.value.bind fun v => op.textTest? v⟩

/-- Checks whether case counts. -/
def checkCase (members : Members) : Checked (Option Bool) :=
  match present? members "case_sensitive" with
  | none => .ok none
  | some (.bool b) => .ok (some b)
  | some _ => ⟨[⟨.property "case_sensitive", .caseNotBool⟩], some none⟩

/-- Checks that no currency is named beside the field
(`reject_currency_modifier`).  Unlike elsewhere a null counts as named. -/
def checkCurrency (members : Members) : List Defect :=
  defectIf (Json.member? members "currency").isSome "currency" .currencyModifier

/-- Checks that the pattern of a test can be read. -/
def checkPattern : Option TextTest → List Defect
  | some (.regex pattern) =>
    defectIf (Pattern.compile? false pattern).isNone "value" (.patternUnreadable pattern)
  | _ => []

/-- Checks a condition on a text field. -/
def checkText (field : TextField) (op : Operator) (members : Members) : Checked Condition :=
  let test := checkTextTest op members
  let sensitive := checkCase members
  ⟨test.defects ++ sensitive.defects ++ checkCurrency members ++ checkPattern test.value,
    test.value.map fun t => .text field t (sensitive.value.getD none)⟩

/-- Checks a number. -/
def checkNumber (key : String) (op : Operator) (members : Members) : Checked Decimal :=
  match present? members key with
  | none => .fail (.property key) (.propertyMissing key op)
  | some (.num n) =>
    match n.toDecimal? with
    | some d => .ok d
    | none => .fail (.property key) (.notNumber key)
  | some _ => .fail (.property key) (.notNumber key)

/-- A test with the numbers it was read from, each with its property. -/
structure NumericReading where
  defects : List Defect
  numbers : List (String × Decimal)
  test : Option NumericTest

/-- Checks the bounds of `between`. -/
def checkBounds (members : Members) : NumericReading :=
  let min := checkNumber "min_value" .between members
  let max := checkNumber "max_value" .between members
  let reversed := match min.value, max.value with
    | some a, some b => b.atMost a
    | _, _ => false
  { defects := min.defects ++ max.defects ++
      defectIf (present? members "value").isSome "value" .valueBesideBounds ++
      defectIf reversed "min_value" .boundsReversed
    numbers := (min.value.map ("min_value", ·)).toList ++ (max.value.map ("max_value", ·)).toList
    test := match min.value, max.value with
      | some a, some b => some (.between a b)
      | _, _ => none }

/-- Checks the one number of a numeric test. -/
def checkSingle (op : Operator) (members : Members) : NumericReading :=
  let value := checkNumber "value" op members
  { defects := value.defects ++
      defectIf (present? members "values").isSome "values" (.valuesWithout op)
    numbers := (value.value.map ("value", ·)).toList
    test := value.value.bind fun v => op.numericTest? v }

/-- The direction codes reach from `0` to this one. -/
def maxDirection : Decimal := .ofInt32 2

/-- Checks a number against the range of its field: a bound of an amount is not
negative, and a direction is one of the codes. -/
def checkRange (field : NumericField) : String × Decimal → List Defect
  | (key, d) =>
    match field with
    | .amount => defectIf (key != "value" && d.isNegative) key (.boundNegative key)
    | .direction =>
      defectIf (d.isNegative || maxDirection.less d) key (.directionOutOfRange key)

/-- Checks a condition on a numeric field. -/
def checkNumeric (field : NumericField) (op : Operator) (members : Members) : Checked Condition :=
  let reading := if op = .between then checkBounds members else checkSingle op members
  ⟨reading.defects ++
      defectIf (present? members "case_sensitive").isSome "case_sensitive"
        (.caseOnNumeric field) ++
      checkCurrency members ++ reading.numbers.flatMap (checkRange field),
    reading.test.map fun t => .numeric field t⟩

/-- Checks what depends on the field and the operator. -/
def checkBody (field : Field) (op : Operator) (members : Members) : Checked Condition :=
  if op.appliesTo field.family then
    match field with
    | .text f => checkText f op members
    | .numeric f => checkNumeric f op members
  else .fail (.property "operator") (.operatorMismatch op field)

/-- Checks the members of a condition. -/
def checkMembers (members : Members) : Checked Condition :=
  let field := checkField members
  let op := checkOperator members
  match field.value, op.value with
  | some f, some o => checkBody f o members
  | _, _ => ⟨field.defects ++ op.defects, none⟩

/-- Checks one condition; it is read only if nothing is wrong with it.  What is
no object is not looked at further. -/
def checkItem (j : Json) : Checked Condition :=
  match j with
  | .obj members =>
    let checked := checkMembers members
    if checked.defects.isEmpty then checked else ⟨checked.defects, none⟩
  | _ => .fail .whole .conditionNotObject

/-- The faults of the conditions, the first of them at `index`. -/
def itemFaults (index : Nat) : List Json → List Fault
  | [] => []
  | j :: rest => (checkItem j).defects.map (·.inItem index) ++ itemFaults (index + 1) rest

/-- Checks the logic. -/
def checkLogic (members : Members) : List Fault × Option Logic :=
  match present? members "logic" with
  | none => ([⟨.logic, .logicMissing⟩], none)
  | some (.str name) =>
    match Logic.ofName? name with
    | some logic => ([], some logic)
    | none => ([⟨.logic, .logicUnknown name⟩], none)
  | some _ => ([⟨.logic, .logicNotText⟩], none)

/-- Checks the list of conditions. -/
def checkItems (members : Members) : List Fault × List Condition :=
  match Json.member? members "conditions" with
  | some (.arr []) => ([⟨.conditions, .noConditions⟩], [])
  | some (.arr items) => (itemFaults 0 items, items.filterMap fun j => (checkItem j).value)
  | _ => ([⟨.conditions, .noConditions⟩], [])

end Validation

/-- The outcome of a validation: a body in normal form, or what is wrong. -/
inductive Verdict
  | accepted (conditions : Conditions)
  | rejected (faults : List Fault)
  deriving DecidableEq, Repr

namespace Verdict

/-- Whether the body was accepted. -/
def valid : Verdict → Bool
  | accepted _ => true
  | rejected _ => false

/-- What is wrong. -/
def faults : Verdict → List Fault
  | accepted _ => []
  | rejected faults => faults

/-- The accepted body. -/
def conditions? : Verdict → Option Conditions
  | accepted c => some c
  | rejected _ => none

/-- The faults at exactly one path. -/
def faultsAt (v : Verdict) (path : String) : List Fault :=
  v.faults.filter (·.place.path == path)

/-- Whether some fault has a code. -/
def hasCode (v : Verdict) (code : FaultCode) : Bool := v.faults.any (·.code == code)

/-- The text of a verdict. -/
def text : Verdict → String
  | accepted _ => "valid"
  | rejected faults => "; ".intercalate (faults.map Fault.text)

/-- The written form. -/
def toJson : Verdict → Json
  | accepted c => .obj [("conditions", c.toJson), ("errors", .arr []), ("valid", .bool true)]
  | rejected faults => .obj [("errors", .arr (faults.map Fault.toJson)), ("valid", .bool false)]

end Verdict

namespace Conditions

/-- Validates a JSON value as a rule body (`validate_value`).  All that is wrong
is reported, in the order of the body. -/
def validate (body : Json) : Verdict :=
  match body with
  | .obj members =>
    let (logicFaults, logic) := Validation.checkLogic members
    let (faults, items) := Validation.checkItems members
    match logic, faults with
    | some logic, [] => .accepted (Conditions.normalize ⟨logic, items⟩)
    | _, _ => .rejected (logicFaults ++ faults)
  | _ => .rejected [⟨.conditions, .notObject⟩]

/-- Validates a text as a rule body (`validate_rule_conditions`).  This is also
how a body is read that a database keeps. -/
def validateText (raw : String) : Verdict :=
  match Json.read? raw with
  | some body => validate body
  | none => .rejected [⟨.conditions, .notJson⟩]

end Conditions
end LedgerRules
