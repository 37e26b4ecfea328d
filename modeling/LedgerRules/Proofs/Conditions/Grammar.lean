/-
# The grammar of rule bodies

What a JSON value has to look like to be a rule body, and what it says then.  A
body is an object with a logic and a non-empty list of conditions; a condition
is an object whose properties depend on its operator and on the family of its
field:

| field | operator | values | must not be there |
| --- | --- | --- | --- |
| text | `contains_any` | `values`, an array of texts | `value` |
| text | any other for texts | `value`, a text or a number | `values` |
| numeric | `between` | `min_value` and `max_value`, numbers | `value` |
| numeric | any other for numbers | `value`, a number | `values`, `case_sensitive` |

A property that is null is not there, but `currency` may not be named at all.

`Grammar.Says` is this table.  `Condition.Fits` is what is asked of a condition
beyond it: `contains_any` has a value, a pattern can be read, bounds are in
order, and numbers lie in the range of their field.  Neither looks at how a body
is checked.
-/

import LedgerRules.Conditions.Validation
import LedgerRules.Proofs.Number.Value

namespace LedgerRules

/-! ### Names -/

/-- A name is read as the field that has it. -/
theorem Field.ofName?_eq_some {s : String} {f : Field} : Field.ofName? s = some f ↔ f.name = s := by
  constructor
  · intro h
    have hf := List.find?_some h
    exact beq_iff_eq.1 hf
  · rintro rfl
    cases f with
    | text f => cases f <;> rfl
    | numeric f => cases f <;> rfl

/-- A name is read as the operator that has it. -/
theorem Operator.ofName?_eq_some {s : String} {op : Operator} :
    Operator.ofName? s = some op ↔ op.name = s := by
  constructor
  · intro h
    have hop := List.find?_some h
    exact beq_iff_eq.1 hop
  · rintro rfl
    cases op <;> rfl

/-- No two fields have one name. -/
theorem Field.name_inj {f g : Field} (h : f.name = g.name) : f = g :=
  Option.some.inj ((Field.ofName?_eq_some.2 h).symm.trans (Field.ofName?_eq_some.2 rfl))

/-- No two operators have one name. -/
theorem Operator.name_inj {a b : Operator} (h : a.name = b.name) : a = b :=
  Option.some.inj ((Operator.ofName?_eq_some.2 h).symm.trans (Operator.ofName?_eq_some.2 rfl))

/-- A logic is read from its name, whatever the case of the letters. -/
theorem Logic.ofName?_eq_some {s : String} {l : Logic} :
    Logic.ofName? s = some l ↔ Text.asciiCaseEq s l.name = true := by
  have ha : "AND".toList.map Char.toLower = "and".toList := by decide
  have ho : "OR".toList.map Char.toLower = "or".toList := by decide
  have hne : "or".toList ≠ "and".toList := by decide
  unfold Logic.ofName? Text.asciiCaseEq
  rw [beq_iff_eq]
  change _ ↔ s.toList.map Char.toLower = l.name.toList.map Char.toLower
  dsimp only
  cases l with
  | and =>
    rw [Logic.name, ha]
    split <;> simp_all
  | or =>
    rw [Logic.name, ho]
    split <;> simp_all

/-! ### Conditions that mean something -/

/-- A list of values has an entry, and a pattern can be read.  Every other text
test fits: an empty text is a value like any other. -/
def TextTest.Fits : TextTest → Prop
  | containsAny values => values ≠ []
  | regex pattern => (Pattern.compile? false pattern).isSome = true
  | _ => True

/-- The numbers of a test, bounds in their order.  What is asked of the numbers
of a field is asked of each of them. -/
def NumericTest.numbers : NumericTest → List Decimal
  | equals v => [v]
  | notEquals v => [v]
  | greaterThan v => [v]
  | lessThan v => [v]
  | between min max => [min, max]

/-- The least is below the greatest, bounds of an amount are not negative, and
the numbers of a direction are codes. -/
structure NumericTest.Fits (field : NumericField) (t : NumericTest) : Prop where
  ordered : ∀ min max, t = between min max → min.value < max.value
  amount : field = .amount → ∀ min max, t = between min max → 0 ≤ min.value ∧ 0 ≤ max.value
  direction : field = .direction → ∀ d ∈ t.numbers, 0 ≤ d.value ∧ d.value ≤ 2

/-- What is asked of a condition beyond its form, that is, beyond which
properties are there and of what type they are. -/
def Condition.Fits : Condition → Prop
  | text _ t _ => t.Fits
  | numeric f t => t.Fits f

namespace Grammar

variable (members : Members) (key : String)

/-- A property is not there, or it is null.  Both count as not given
(`is_present`). -/
def Absent : Prop := Json.member? members key = none ∨ Json.member? members key = some .null

/-- A property is a text, in whatever letters. -/
def IsText (s : String) : Prop := Json.member? members key = some (.str s)

/-- A property gives a text, as one or as a number that is written so.  The text
of a number is that of the JSON number, not the digits of the document. -/
def Spells (s : String) : Prop :=
  IsText members key s ∨ ∃ n, Json.member? members key = some (.num n) ∧ n.toText = s

/-- A property is a number that a decimal can hold. -/
def IsNumber (d : Decimal) : Prop :=
  ∃ n, Json.member? members key = some (.num n) ∧ n.toDecimal? = some d

/-- Whether case counts: a truth value, or nothing. -/
def CaseGiven : Option Bool → Prop
  | none => Absent members "case_sensitive"
  | some b => Json.member? members "case_sensitive" = some (.bool b)

/-- The values of a text test: a list for `contains_any`, one value for every
other operator, and then no list beside it. -/
def TextValues : TextTest → Prop
  | .containsAny values =>
    Json.member? members "values" = some (.arr (values.map .str)) ∧ Absent members "value"
  | .equals v | .notEquals v | .contains v | .notContains v | .startsWith v | .endsWith v
  | .regex v => Spells members "value" v ∧ Absent members "values"

/-- The values of a numeric test: two bounds for `between`, one number for every
other operator, and what belongs to the other kind is not there. -/
def NumericValues : NumericTest → Prop
  | .between min max =>
    IsNumber members "min_value" min ∧ IsNumber members "max_value" max ∧ Absent members "value"
  | .equals v | .notEquals v | .greaterThan v | .lessThan v =>
    IsNumber members "value" v ∧ Absent members "values"

/-- The members of an object say a condition.  A text test stands at a text
field and a numeric one at a numeric field, so the operator applies to the
field. -/
inductive Says : Condition → Prop
  | text {f : TextField} {t : TextTest} {caseSensitive : Option Bool}
      (field : IsText members "field" f.name) (operator : IsText members "operator" t.operator.name)
      (currency : Json.member? members "currency" = none) (case : CaseGiven members caseSensitive)
      (values : TextValues members t) : Says (.text f t caseSensitive)
  | numeric {f : NumericField} {t : NumericTest}
      (field : IsText members "field" f.name) (operator : IsText members "operator" t.operator.name)
      (currency : Json.member? members "currency" = none) (case : Absent members "case_sensitive")
      (values : NumericValues members t) : Says (.numeric f t)

/-- A JSON value is a condition: an object whose members say it, which fits.
Members that the grammar does not name are ignored, but for a currency. -/
def Item (j : Json) (c : Condition) : Prop :=
  ∃ members, j = .obj members ∧ Says members c ∧ c.Fits

/-- A JSON value is a rule body; the condition of each item stands in its
place.  This is the grammar of the specification, written without looking at the
validator: nothing in it says in which order things are checked, or what a fault
is. -/
def Body (j : Json) (c : Conditions) : Prop :=
  ∃ members, j = .obj members ∧
    (∃ s, IsText members "logic" s ∧ Text.asciiCaseEq s c.logic.name = true) ∧
    ∃ items, Json.member? members "conditions" = some (.arr items) ∧ items ≠ [] ∧
      List.Forall₂ Item items c.items

/-! ### The grammar is unambiguous -/

variable {members : Members} {key : String}

/-- A property is one text at most. -/
theorem IsText.unique {s s' : String} (h : IsText members key s) (h' : IsText members key s') :
    s = s' :=
  Json.str.inj (Option.some.inj (h.symm.trans h'))

/-- A property spells one text at most: what is a text is no number. -/
theorem Spells.unique {s s' : String} (h : Spells members key s) (h' : Spells members key s') :
    s = s' := by
  rcases h with h | ⟨n, h, rfl⟩
  · rcases h' with h' | ⟨n, h', -⟩
    · exact h.unique h'
    · cases h.symm.trans h'
  · rcases h' with h' | ⟨n', h', rfl⟩
    · cases h.symm.trans h'
    · rw [Json.num.inj (Option.some.inj (h.symm.trans h'))]

/-- A property is one number at most. -/
theorem IsNumber.unique {d d' : Decimal} (h : IsNumber members key d)
    (h' : IsNumber members key d') : d = d' := by
  obtain ⟨n, h, hd⟩ := h
  obtain ⟨n', h', hd'⟩ := h'
  obtain rfl := Json.num.inj (Option.some.inj (h.symm.trans h'))
  exact Option.some.inj (hd.symm.trans hd')

/-- The case flag is given in one way at most. -/
theorem CaseGiven.unique {c c' : Option Bool} (h : CaseGiven members c)
    (h' : CaseGiven members c') : c = c' := by
  unfold CaseGiven Absent at h h'
  cases c <;> cases c' <;> simp_all

/-- A text test of a given operator has its values from the members alone. -/
theorem TextValues.unique {t t' : TextTest} (h : TextValues members t)
    (h' : TextValues members t') (hop : t.operator = t'.operator) : t = t' := by
  cases t <;> cases t' <;> try cases hop
  case containsAny.containsAny values values' =>
    have harr := Json.arr.inj (Option.some.inj (h.1.symm.trans h'.1))
    rw [(List.map_inj_right fun _ _ => Json.str.inj).1 harr]
  all_goals rw [Spells.unique h.1 h'.1]

/-- And so does a numeric test. -/
theorem NumericValues.unique {t t' : NumericTest} (h : NumericValues members t)
    (h' : NumericValues members t') (hop : t.operator = t'.operator) : t = t' := by
  cases t <;> cases t' <;> try cases hop
  case between.between => rw [h.1.unique h'.1, h.2.1.unique h'.2.1]
  all_goals rw [IsNumber.unique h.1 h'.1]

/-- What the members say is about the field they name. -/
theorem Says.isText_field {c : Condition} (h : Says members c) :
    IsText members "field" c.field.name := by
  cases h <;> assumption

/-- And it is a test with the operator they name. -/
theorem Says.isText_operator {c : Condition} (h : Says members c) :
    IsText members "operator" c.operator.name := by
  cases h <;> assumption

/-- **The members of an object say one condition at most.** So the grammar is a
reading of texts, and not only a test of them. -/
theorem Says.unique {c c' : Condition} (h : Says members c) (h' : Says members c') : c = c' := by
  have hfield : c.field = c'.field := Field.name_inj (h.isText_field.unique h'.isText_field)
  have hop : c.operator = c'.operator :=
    Operator.name_inj (h.isText_operator.unique h'.isText_operator)
  cases h with
  | text _ _ _ hc hv =>
    cases h' with
    | text _ _ _ hc' hv' =>
      obtain rfl := Field.text.inj hfield
      obtain rfl := hv.unique hv' hop
      obtain rfl := hc.unique hc'
      rfl
    | numeric _ _ _ _ _ => exact Field.noConfusion hfield
  | numeric _ _ _ _ hv =>
    cases h' with
    | text _ _ _ _ _ => exact Field.noConfusion hfield
    | numeric _ _ _ _ hv' =>
      obtain rfl := Field.numeric.inj hfield
      obtain rfl := hv.unique hv' hop
      rfl

end Grammar
end LedgerRules
