/-
# The validator accepts the grammar

Each check of the validator passes exactly where the grammar says so, with the
value the grammar gives (`Checked.Passes`), and one that finds nothing wrong has
a value, so no condition is dropped without a fault.  A body is accepted if and
only if it is in the grammar, and then it is accepted in normal form
(`validate_eq_accepted_iff`).
-/

import LedgerRules.Proofs.Conditions.Grammar
import Mathlib.Data.List.Forall2

namespace LedgerRules

/-- Nothing is wrong, and this is the value.  The lemmas below say of every
check of `Validator` exactly when it passes, in terms of the grammar. -/
def Checked.Passes {α : Type} (x : Checked α) (a : α) : Prop := x.defects = [] ∧ x.value = some a

/-- Where nothing is wrong there is a value, so that a condition can only be
missing from the result if a fault was pushed for it. -/
def Checked.Sound {α : Type} (x : Checked α) : Prop := x.defects = [] → ∃ a, x.value = some a

namespace Checked

variable {α : Type} {a b : α}

/-- What is simply there passes with itself. -/
@[simp]
theorem passes_ok : (Checked.ok a).Passes b ↔ a = b := by
  unfold Passes ok
  simp

/-- A check passes if it has no defects and the value. -/
@[simp]
theorem passes_mk {defects : List Defect} {value : Option α} :
    Checked.Passes ⟨defects, value⟩ a ↔ defects = [] ∧ value = some a := Iff.rfl

/-- A check that fails passes with nothing. -/
@[simp]
theorem not_passes_fail {part : Part} {cause : Cause} : ¬(Checked.fail part cause).Passes a := by
  rintro ⟨-, h⟩
  cases h

/-- A value that is simply there is there. -/
theorem sound_ok : (Checked.ok a).Sound := fun _ => ⟨a, rfl⟩

/-- A check that fails has a defect to show for it. -/
theorem sound_fail {part : Part} {cause : Cause} : (Checked.fail part cause : Checked α).Sound :=
  nofun

end Checked

namespace Validation

open Grammar

variable {members : Members} {key : String}

/-! ### Properties -/

/-- Absent is what is not there or null. -/
theorem present?_eq_none : present? members key = none ↔ Absent members key := by
  unfold present? Absent
  split
  · rename_i h
    simp [h]
  · rename_i h
    constructor
    · exact .inl
    · rintro (h0 | h0)
      · exact h0
      · exact absurd h0 h

/-- Present is what is there and not null. -/
theorem present?_eq_some {j : Json} :
    present? members key = some j ↔ Json.member? members key = some j ∧ j ≠ .null := by
  unfold present?
  split
  · rename_i h
    rw [h]
    constructor
    · nofun
    · rintro ⟨h0, hne⟩
      exact absurd (Option.some.inj h0).symm hne
  · rename_i h
    constructor
    · rintro h0
      refine ⟨h0, ?_⟩
      rintro rfl
      exact h h0
    · exact And.left

/-- A property is a text if that is what is present. -/
theorem isText_iff {s : String} :
    IsText members key s ↔ present? members key = some (.str s) := by
  rw [present?_eq_some]
  exact ⟨fun h => ⟨h, nofun⟩, And.left⟩

/-- A property is a number if a number is present that can be read as a decimal. -/
theorem isNumber_iff {d : Decimal} :
    IsNumber members key d ↔
      ∃ n, present? members key = some (.num n) ∧ n.toDecimal? = some d := by
  unfold IsNumber
  simp only [present?_eq_some, ne_eq, reduceCtorEq, not_false_eq_true, and_true]

/-- A property spells a text if it is that text, or a number whose text it is: a
JSON number on a text field is taken in its textual form. -/
theorem spells_iff {s : String} :
    Spells members key s ↔ present? members key = some (.str s) ∨
      ∃ n, present? members key = some (.num n) ∧ n.toText = s := by
  unfold Spells
  rw [isText_iff]
  simp only [present?_eq_some, ne_eq, reduceCtorEq, not_false_eq_true, and_true]

/-- A defect at a property is not there exactly where nothing is wrong. -/
theorem defectIf_eq_nil {wrong : Bool} {cause : Cause} :
    defectIf wrong key cause = [] ↔ wrong = false := by
  unfold defectIf
  cases wrong <;> simp

/-- Absence is what the test of the validator finds. -/
theorem absent_iff : (present? members key).isSome = false ↔ Absent members key := by
  rw [Option.isSome_eq_false_iff, Option.isNone_iff_eq_none, present?_eq_none]

/-- A property that must be absent is a defect exactly where it is present. -/
theorem defectIf_present {cause : Cause} :
    defectIf (present? members key).isSome key cause = [] ↔ Absent members key := by
  rw [defectIf_eq_nil, absent_iff]

/-- There is no `currency` among the properties, not even a null one:
`reject_currency_modifier` asks for the key alone. -/
theorem checkCurrency_eq_nil :
    checkCurrency members = [] ↔ Json.member? members "currency" = none := by
  unfold checkCurrency
  rw [defectIf_eq_nil, Option.isSome_eq_false_iff, Option.isNone_iff_eq_none]

/-! ### Field, operator and case -/

/-- A field is read from its name. -/
theorem checkField_passes {f : Field} :
    (checkField members).Passes f ↔ IsText members "field" f.name := by
  rw [isText_iff]
  unfold checkField
  cases present? members "field" with
  | none => simp
  | some j =>
    cases j with
    | str s =>
      rw [Option.some.injEq, Json.str.injEq, eq_comm, ← Field.ofName?_eq_some]
      dsimp only
      cases Field.ofName? s <;> simp
    | _ => simp

/-- An operator is read from its name. -/
theorem checkOperator_passes {op : Operator} :
    (checkOperator members).Passes op ↔ IsText members "operator" op.name := by
  rw [isText_iff]
  unfold checkOperator
  cases present? members "operator" with
  | none => simp
  | some j =>
    cases j with
    | str s =>
      rw [Option.some.injEq, Json.str.injEq, eq_comm, ← Operator.ofName?_eq_some]
      dsimp only
      cases Operator.ofName? s <;> simp
    | _ => simp

/-- The case flag is read where it is absent or a truth value. -/
theorem checkCase_passes {caseSensitive : Option Bool} :
    (checkCase members).Passes caseSensitive ↔ CaseGiven members caseSensitive := by
  have hg : CaseGiven members caseSensitive ↔
      present? members "case_sensitive" = caseSensitive.map .bool := by
    cases caseSensitive with
    | none => exact present?_eq_none.symm
    | some b => simp [CaseGiven, present?_eq_some]
  rw [hg]
  unfold checkCase
  cases present? members "case_sensitive" with
  | none => cases caseSensitive <;> simp
  | some j => cases j <;> cases caseSensitive <;> simp

/-! ### Text tests -/

/-- The value of a text test is read where it is a text or a number. -/
theorem checkTextValue_passes {op : Operator} {v : String} :
    (checkTextValue op members).Passes v ↔ Spells members "value" v := by
  rw [spells_iff]
  unfold checkTextValue
  cases present? members "value" with
  | none => simp
  | some j => cases j <;> simp

/-- The texts of a list are all there is in it, so a list with anything else in
it does not pass. -/
theorem checkEntries_passes {index : Nat} {items : List Json} {values : List String} :
    (checkEntries index items).Passes values ↔ items = values.map .str := by
  induction items generalizing index values with
  | nil => simp [checkEntries, eq_comm]
  | cons j rest ih =>
    unfold checkEntries
    cases j with
    | str s =>
      rw [Checked.passes_mk, Option.map_eq_some_iff]
      cases values with
      | nil => simp
      | cons v values =>
        rw [List.map_cons, List.cons.injEq, Json.str.injEq, ← @ih (index + 1) values]
        constructor
        · rintro ⟨hd, vs, hv, he⟩
          obtain ⟨rfl, rfl⟩ := List.cons.inj he
          exact ⟨rfl, hd, hv⟩
        · rintro ⟨rfl, hd, hv⟩
          exact ⟨hd, values, hv, rfl⟩
    | _ => cases values <;> simp

/-- A list of values is read where it is not empty and holds texts alone. -/
theorem checkTextValues_passes {values : List String} :
    (checkTextValues members).Passes values ↔ values ≠ [] ∧
      Json.member? members "values" = some (.arr (values.map .str)) := by
  have hp : Json.member? members "values" = some (.arr (values.map .str)) ↔
      present? members "values" = some (.arr (values.map .str)) := by simp [present?_eq_some]
  rw [hp]
  unfold checkTextValues
  cases present? members "values" with
  | none => simp
  | some j =>
    cases j with
    | arr items =>
      cases items with
      | nil => simp
      | cons j rest =>
        dsimp only
        rw [checkEntries_passes, Option.some.injEq, Json.arr.injEq]
        constructor
        · rintro h
          refine ⟨?_, h⟩
          rintro rfl
          cases h
        · exact And.right
    | _ => simp

/-- A list of values passes as a test that has one of them. -/
theorem checkTextTest_containsAny {t : TextTest} :
    (checkTextTest .containsAny members).Passes t ↔ t.operator = .containsAny ∧
      TextValues members t ∧ ∀ values, t = .containsAny values → values ≠ [] := by
  unfold checkTextTest
  rw [if_pos rfl, Checked.passes_mk, List.append_eq_nil_iff, defectIf_present,
    Option.map_eq_some_iff]
  constructor
  · rintro ⟨⟨hd, ha⟩, values, hv, rfl⟩
    obtain ⟨hne, hm⟩ := checkTextValues_passes.1 ⟨hd, hv⟩
    refine ⟨rfl, ⟨hm, ha⟩, fun values' he => ?_⟩
    rwa [← TextTest.containsAny.inj he]
  · rintro ⟨hop, hv, hne⟩
    cases t with
    | containsAny values =>
      obtain ⟨hd, hval⟩ := checkTextValues_passes.2 ⟨hne values rfl, hv.1⟩
      exact ⟨⟨hd, hv.2⟩, values, hval, rfl⟩
    | _ => cases hop

/-- A text test passes with the operator it was asked for. -/
theorem checkTextTest_passes {op : Operator} {t : TextTest} :
    (checkTextTest op members).Passes t ↔ t.operator = op ∧ TextValues members t ∧
      ∀ values, t = .containsAny values → values ≠ [] := by
  by_cases hop : op = .containsAny
  · rw [hop]
    exact checkTextTest_containsAny
  · unfold checkTextTest
    rw [if_neg hop, Checked.passes_mk, List.append_eq_nil_iff, defectIf_present,
      Option.bind_eq_some_iff]
    constructor
    · rintro ⟨⟨hd, ha⟩, v, hv, ht⟩
      have hs := checkTextValue_passes.1 ⟨hd, hv⟩
      cases op <;> simp [Operator.textTest?] at ht hop
      all_goals
        subst ht
        exact ⟨rfl, ⟨hs, ha⟩, nofun⟩
    · rintro ⟨rfl, hv, -⟩
      cases t with
      | containsAny values => exact absurd rfl hop
      | _ v =>
        obtain ⟨hd, hval⟩ := checkTextValue_passes.2 hv.1
        exact ⟨⟨hd, hv.2⟩, v, hval, rfl⟩

/-- A pattern has to be readable as one that minds case, whether or not the
condition does. -/
theorem checkPattern_eq_nil {t : TextTest} : checkPattern (some t) = [] ↔
    ∀ pattern, t = .regex pattern → (Pattern.compile? false pattern).isSome = true := by
  cases t with
  | regex pattern =>
    unfold checkPattern
    rw [defectIf_eq_nil, Option.isNone_eq_false_iff]
    constructor
    · rintro h pattern' he
      rwa [← TextTest.regex.inj he]
    · intro h
      exact h pattern rfl
  | _ => exact ⟨fun _ => nofun, fun _ => rfl⟩

/-- A text test fits if its list is not empty and its pattern can be read. -/
theorem textTest_fits_iff {t : TextTest} :
    t.Fits ↔ (∀ values, t = .containsAny values → values ≠ []) ∧
      ∀ pattern, t = .regex pattern → (Pattern.compile? false pattern).isSome = true := by
  cases t <;> simp [TextTest.Fits]

/-- A case flag that is not read has a defect. -/
theorem checkCase_sound : (checkCase members).Sound := by
  unfold checkCase
  split
  · exact Checked.sound_ok
  · exact Checked.sound_ok
  · exact nofun

/-- A condition on a text field passes as its test with its case flag, if
nothing else is among its properties that may not be there. -/
theorem checkText_passes {f : TextField} {op : Operator} {c : Condition} :
    (checkText f op members).Passes c ↔ ∃ t caseSensitive, c = .text f t caseSensitive ∧
      t.operator = op ∧ Json.member? members "currency" = none ∧
      CaseGiven members caseSensitive ∧ TextValues members t ∧ t.Fits := by
  unfold checkText
  simp only [Checked.passes_mk, List.append_eq_nil_iff, Option.map_eq_some_iff,
    checkCurrency_eq_nil]
  constructor
  · rintro ⟨⟨⟨⟨ht, hs⟩, hc⟩, hp⟩, t, hv, rfl⟩
    obtain ⟨caseSensitive, hcase⟩ := checkCase_sound hs
    obtain ⟨hop, hvals, hne⟩ := checkTextTest_passes.1 ⟨ht, hv⟩
    rw [hv, checkPattern_eq_nil] at hp
    refine ⟨t, caseSensitive, ?_, hop, hc, checkCase_passes.1 ⟨hs, hcase⟩, hvals,
      textTest_fits_iff.2 ⟨hne, hp⟩⟩
    rw [hcase]
    rfl
  · rintro ⟨t, caseSensitive, rfl, hop, hc, hcase, hvals, hfits⟩
    obtain ⟨hne, hp⟩ := textTest_fits_iff.1 hfits
    obtain ⟨ht, hv⟩ := checkTextTest_passes.2 ⟨hop, hvals, hne⟩
    obtain ⟨hs, hcs⟩ := checkCase_passes.2 hcase
    refine ⟨⟨⟨⟨ht, hs⟩, hc⟩, ?_⟩, t, hv, ?_⟩
    · rwa [hv, checkPattern_eq_nil]
    · rw [hcs]
      rfl

/-! ### Numeric tests -/

/-- A number is read where it is one. -/
theorem checkNumber_passes {op : Operator} {d : Decimal} :
    (checkNumber key op members).Passes d ↔ IsNumber members key d := by
  rw [isNumber_iff]
  unfold checkNumber
  cases present? members key with
  | none => simp
  | some j =>
    cases j with
    | num n =>
      dsimp only
      cases h : n.toDecimal? <;> simp [h]
    | _ => simp

/-- A number that is not read has a defect. -/
theorem checkNumber_sound {op : Operator} : (checkNumber key op members).Sound := by
  unfold checkNumber
  split
  · exact Checked.sound_fail
  · split
    · exact Checked.sound_ok
    · exact Checked.sound_fail
  · exact Checked.sound_fail

/-- The numbers of a test, each with the property it comes from, which is what a
fault of its range names. -/
def labelled : NumericTest → List (String × Decimal)
  | .between min max => [("min_value", min), ("max_value", max)]
  | .equals v | .notEquals v | .greaterThan v | .lessThan v => [("value", v)]

/-- Bounds are read where both are numbers and they are in order. -/
theorem checkBounds_reads {t : NumericTest} :
    (checkBounds members).defects = [] ∧ (checkBounds members).test = some t ↔
      t.operator = .between ∧ NumericValues members t ∧
        ∀ min max, t = .between min max → min.value < max.value := by
  simp only [checkBounds, List.append_eq_nil_iff, defectIf_eq_nil, absent_iff]
  constructor
  · rintro ⟨⟨⟨⟨hmin, hmax⟩, hv⟩, hr⟩, ht⟩
    obtain ⟨a, ha⟩ := checkNumber_sound hmin
    obtain ⟨b, hb⟩ := checkNumber_sound hmax
    rw [ha, hb] at hr ht
    obtain rfl := Option.some.inj ht
    refine ⟨rfl, ⟨checkNumber_passes.1 ⟨hmin, ha⟩, checkNumber_passes.1 ⟨hmax, hb⟩, hv⟩, ?_⟩
    intro min max he
    obtain ⟨rfl, rfl⟩ := NumericTest.between.inj he
    rwa [← Bool.not_eq_true, Decimal.atMost_iff, not_le] at hr
  · rintro ⟨hop, hvals, hord⟩
    cases t with
    | between a b =>
      obtain ⟨hmin, ha⟩ := checkNumber_passes.2 hvals.1
      obtain ⟨hmax, hb⟩ := checkNumber_passes.2 hvals.2.1
      rw [ha, hb]
      refine ⟨⟨⟨⟨hmin, hmax⟩, hvals.2.2⟩, ?_⟩, rfl⟩
      rw [← Bool.not_eq_true, Decimal.atMost_iff, not_le]
      exact hord a b rfl
    | _ => cases hop

/-- One number is read where it is one and the operator takes one. -/
theorem checkSingle_reads {op : Operator} {t : NumericTest} (hop : op ≠ .between) :
    (checkSingle op members).defects = [] ∧ (checkSingle op members).test = some t ↔
      t.operator = op ∧ NumericValues members t := by
  simp only [checkSingle, List.append_eq_nil_iff, defectIf_present, Option.bind_eq_some_iff]
  constructor
  · rintro ⟨⟨hd, ha⟩, v, hv, ht⟩
    have hn := checkNumber_passes.1 ⟨hd, hv⟩
    cases op <;> simp [Operator.numericTest?] at ht hop
    all_goals
      subst ht
      exact ⟨rfl, hn, ha⟩
  · rintro ⟨rfl, hvals⟩
    cases t with
    | between a b => exact absurd rfl hop
    | _ v =>
      obtain ⟨hd, hv⟩ := checkNumber_passes.2 hvals.1
      exact ⟨⟨hd, hvals.2⟩, v, hv, rfl⟩

/-- Bounds that are read are looked at under the names they have. -/
theorem checkBounds_numbers {t : NumericTest} (h : (checkBounds members).test = some t) :
    (checkBounds members).numbers = labelled t := by
  unfold checkBounds at h ⊢
  dsimp only at h ⊢
  split at h
  · rename_i a b ha hb
    obtain rfl := Option.some.inj h
    rw [ha, hb]
    rfl
  · cases h

/-- And so is a single number. -/
theorem checkSingle_numbers {op : Operator} {t : NumericTest}
    (h : (checkSingle op members).test = some t) :
    (checkSingle op members).numbers = labelled t := by
  unfold checkSingle at h ⊢
  obtain ⟨v, hv, ht⟩ := Option.bind_eq_some_iff.1 h
  dsimp only
  rw [hv]
  cases op <;> simp [Operator.numericTest?] at ht
  all_goals
    subst ht
    rfl

/-- What the properties of a numeric condition are read as. -/
theorem reads_iff {op : Operator} {t : NumericTest} {r : NumericReading}
    (hr : r = if op = .between then checkBounds members else checkSingle op members) :
    (r.defects = [] ∧ r.test = some t ↔ t.operator = op ∧ NumericValues members t ∧
      ∀ min max, t = .between min max → min.value < max.value) ∧
    (r.test = some t → r.numbers = labelled t) := by
  subst hr
  split
  · rename_i hop
    rw [hop]
    exact ⟨checkBounds_reads, checkBounds_numbers⟩
  · rename_i hop
    refine ⟨?_, checkSingle_numbers⟩
    rw [checkSingle_reads hop]
    constructor
    · rintro ⟨rfl, hv⟩
      refine ⟨rfl, hv, fun min max he => ?_⟩
      rw [he] at hop
      exact absurd rfl hop
    · exact fun h => ⟨h.1, h.2.1⟩

/-- The greatest direction code is 2. -/
theorem value_maxDirection : maxDirection.value = 2 := by
  have h : Decimal.ofInt? 2 = some maxDirection := by decide
  exact Decimal.value_ofInt? h

/-- A decimal without a minus has a value that is not negative, so `-0` is not
negative either. -/
theorem zero_le_value_iff {d : Decimal} : d.isNegative = false ↔ 0 ≤ d.value := by
  rw [← Bool.not_eq_true, Decimal.isNegative_iff, not_lt]

/-- A direction lies in its range from 0 to 2, whatever property it comes from. -/
theorem checkRange_direction {d : Decimal} :
    checkRange .direction (key, d) = [] ↔ 0 ≤ d.value ∧ d.value ≤ 2 := by
  unfold checkRange
  rw [defectIf_eq_nil, Bool.or_eq_false_iff, zero_le_value_iff, ← Bool.not_eq_true,
    Decimal.less_iff, value_maxDirection, not_lt]

/-- Of an amount only the bounds have a range: a value may be negative, though
no amount that a rule sees is. -/
theorem checkRange_amount {d : Decimal} :
    checkRange .amount (key, d) = [] ↔ (key ≠ "value" → 0 ≤ d.value) := by
  unfold checkRange
  rw [defectIf_eq_nil, ← zero_le_value_iff]
  by_cases hk : key = "value" <;> simp [hk]

/-- The numbers of a test lie in the range of its field. -/
theorem checkRange_eq_nil {f : NumericField} {t : NumericTest} :
    (labelled t).flatMap (checkRange f) = [] ↔
      (f = .amount → ∀ min max, t = .between min max → 0 ≤ min.value ∧ 0 ≤ max.value) ∧
        (f = .direction → ∀ d ∈ t.numbers, 0 ≤ d.value ∧ d.value ≤ 2) := by
  cases f with
  | amount => cases t <;> simp [labelled, checkRange_amount]
  | direction => cases t <;> simp [labelled, NumericTest.numbers, checkRange_direction]

/-- A condition on a numeric field passes as its test, if nothing else is among
its properties that may not be there, a case flag included. -/
theorem checkNumeric_passes {f : NumericField} {op : Operator} {c : Condition} :
    (checkNumeric f op members).Passes c ↔ ∃ t, c = .numeric f t ∧ t.operator = op ∧
      Json.member? members "currency" = none ∧ Absent members "case_sensitive" ∧
      NumericValues members t ∧ t.Fits f := by
  unfold checkNumeric
  generalize hr : (if op = .between then checkBounds members else checkSingle op members) = r
  simp only [Checked.passes_mk, List.append_eq_nil_iff, Option.map_eq_some_iff,
    checkCurrency_eq_nil, defectIf_present]
  constructor
  · rintro ⟨⟨⟨⟨hd, hcase⟩, hc⟩, hrange⟩, t, ht, rfl⟩
    obtain ⟨hop, hvals, hord⟩ := (reads_iff hr.symm).1.1 ⟨hd, ht⟩
    rw [(reads_iff hr.symm).2 ht, checkRange_eq_nil] at hrange
    exact ⟨t, rfl, hop, hc, hcase, hvals, hord, hrange.1, hrange.2⟩
  · rintro ⟨t, rfl, hop, hc, hcase, hvals, hfits⟩
    obtain ⟨hd, ht⟩ := (reads_iff hr.symm).1.2 ⟨hop, hvals, hfits.ordered⟩
    refine ⟨⟨⟨⟨hd, hcase⟩, hc⟩, ?_⟩, t, ht, rfl⟩
    rw [(reads_iff hr.symm).2 ht, checkRange_eq_nil]
    exact ⟨hfits.amount, hfits.direction⟩

/-! ### Conditions -/

/-- The operator of a text test applies to texts. -/
theorem textTest_appliesTo (t : TextTest) : t.operator.appliesTo .text = true := by
  cases t <;> rfl

/-- The operator of a numeric test applies to numbers. -/
theorem numericTest_appliesTo (t : NumericTest) : t.operator.appliesTo .numeric = true := by
  cases t <;> rfl

/-- A field is read, or there is a fault. -/
theorem checkField_ok_or_fail (members : Members) :
    (∃ f, checkField members = .ok f) ∨ ∃ part cause, checkField members = .fail part cause := by
  unfold checkField
  split
  · exact .inr ⟨_, _, rfl⟩
  · split
    · exact .inl ⟨_, rfl⟩
    · exact .inr ⟨_, _, rfl⟩
  · exact .inr ⟨_, _, rfl⟩

/-- An operator is read, or there is a fault. -/
theorem checkOperator_ok_or_fail (members : Members) :
    (∃ op, checkOperator members = .ok op) ∨
      ∃ part cause, checkOperator members = .fail part cause := by
  unfold checkOperator
  split
  · exact .inr ⟨_, _, rfl⟩
  · split
    · exact .inl ⟨_, rfl⟩
    · exact .inr ⟨_, _, rfl⟩
  · exact .inr ⟨_, _, rfl⟩

/-- Where the operator applies to the field, what the family asks for decides. -/
theorem checkBody_passes {f : Field} {op : Operator} {c : Condition} :
    (checkBody f op members).Passes c ↔
      c.field = f ∧ c.operator = op ∧ op.appliesTo f.family = true ∧ match f with
        | .text f => (checkText f op members).Passes c
        | .numeric f => (checkNumeric f op members).Passes c := by
  unfold checkBody
  split
  · rename_i happ
    cases f with
    | text f =>
      refine ⟨fun h => ?_, fun h => h.2.2.2⟩
      obtain ⟨t, cs, rfl, hop, -⟩ := checkText_passes.1 h
      exact ⟨rfl, hop, happ, h⟩
    | numeric f =>
      refine ⟨fun h => ?_, fun h => h.2.2.2⟩
      obtain ⟨t, rfl, hop, -⟩ := checkNumeric_passes.1 h
      exact ⟨rfl, hop, happ, h⟩
  · rename_i happ
    simp [happ]

/-- Members are checked as a condition on their field with their operator; where
one of the two is missing there is a fault, and the members say nothing. -/
theorem checkMembers_cases (members : Members) :
    (∃ f op, IsText members "field" f.name ∧ IsText members "operator" op.name ∧
      checkMembers members = checkBody f op members) ∨
    ((checkMembers members).defects ≠ [] ∧ ∀ c, ¬Says members c) := by
  have hfield : ∀ {c}, Says members c → (checkField members).Passes c.field :=
    fun hc => checkField_passes.2 hc.isText_field
  have hop : ∀ {c}, Says members c → (checkOperator members).Passes c.operator :=
    fun hc => checkOperator_passes.2 hc.isText_operator
  unfold checkMembers
  rcases checkField_ok_or_fail members with ⟨f, hf⟩ | ⟨part, cause, hf⟩
  · rcases checkOperator_ok_or_fail members with ⟨op, ho⟩ | ⟨part, cause, ho⟩
    · refine .inl ⟨f, op, checkField_passes.1 (hf ▸ Checked.passes_ok.2 rfl),
        checkOperator_passes.1 (ho ▸ Checked.passes_ok.2 rfl), ?_⟩
      rw [hf, ho]
      rfl
    · refine .inr ⟨?_, fun c hc => Checked.not_passes_fail (ho ▸ hop hc)⟩
      rw [hf, ho]
      exact nofun
  · refine .inr ⟨?_, fun c hc => Checked.not_passes_fail (hf ▸ hfield hc)⟩
    rw [hf]
    exact nofun

/-- The members of a condition pass if they say it and it fits. -/
theorem checkMembers_passes {c : Condition} :
    (checkMembers members).Passes c ↔ Says members c ∧ c.Fits := by
  rcases checkMembers_cases members with ⟨f, op, hf, ho, heq⟩ | ⟨hne, hno⟩
  · rw [heq, checkBody_passes]
    constructor
    · rintro ⟨-, -, -, h⟩
      cases f with
      | text f =>
        obtain ⟨t, cs, rfl, rfl, hcur, hcase, hvals, hfits⟩ := checkText_passes.1 h
        exact ⟨.text hf ho hcur hcase hvals, hfits⟩
      | numeric f =>
        obtain ⟨t, rfl, rfl, hcur, hcase, hvals, hfits⟩ := checkNumeric_passes.1 h
        exact ⟨.numeric hf ho hcur hcase hvals, hfits⟩
    · rintro ⟨h, hfits⟩
      obtain rfl := Field.name_inj (h.isText_field.unique hf)
      obtain rfl := Operator.name_inj (h.isText_operator.unique ho)
      cases h with
      | text _ _ hcur hcase hvals =>
        exact ⟨rfl, rfl, textTest_appliesTo _,
          checkText_passes.2 ⟨_, _, rfl, rfl, hcur, hcase, hvals, hfits⟩⟩
      | numeric _ _ hcur hcase hvals =>
        exact ⟨rfl, rfl, numericTest_appliesTo _,
          checkNumeric_passes.2 ⟨_, rfl, rfl, hcur, hcase, hvals, hfits⟩⟩
  · exact ⟨fun h => absurd h.1 hne, fun h => absurd h.1 (hno c)⟩

/-! ### No condition is dropped -/

/-- A value that is not read has a defect. -/
theorem checkTextValue_sound {op : Operator} : (checkTextValue op members).Sound := by
  unfold checkTextValue
  split
  · exact Checked.sound_fail
  · exact Checked.sound_ok
  · exact Checked.sound_ok
  · exact Checked.sound_fail

/-- A list of texts that is not read has a defect at one of its entries. -/
theorem checkEntries_sound (index : Nat) (items : List Json) :
    (checkEntries index items).Sound := by
  induction items generalizing index with
  | nil => exact Checked.sound_ok
  | cons j rest ih =>
    intro h
    unfold checkEntries at h ⊢
    dsimp only at h ⊢
    split at h
    · obtain ⟨values, hv⟩ := ih (index + 1) h
      exact ⟨_, by rw [hv]; rfl⟩
    · cases h

/-- A list that is not read has a defect. -/
theorem checkTextValues_sound : (checkTextValues members).Sound := by
  unfold checkTextValues
  split
  · exact Checked.sound_fail
  · exact Checked.sound_fail
  · exact checkEntries_sound 0 _
  · exact Checked.sound_fail

/-- An operator for texts that is not `contains_any` has a test for every value. -/
theorem exists_textTest {op : Operator} (happ : op.appliesTo .text = true)
    (hop : op ≠ .containsAny) (v : String) : ∃ t, op.textTest? v = some t := by
  cases op with
  | containsAny => exact absurd rfl hop
  | greaterThan => cases happ
  | lessThan => cases happ
  | between => cases happ
  | _ => exact ⟨_, rfl⟩

/-- A text test that is not read has a defect, if its operator is one for texts. -/
theorem checkTextTest_sound {op : Operator} (happ : op.appliesTo .text = true) :
    (checkTextTest op members).Sound := by
  intro h
  unfold checkTextTest at h ⊢
  dsimp only at h ⊢
  split at h
  · rename_i hop
    obtain ⟨values, hv⟩ := checkTextValues_sound (List.append_eq_nil_iff.1 h).1
    rw [if_pos hop, hv]
    exact ⟨_, rfl⟩
  · rename_i hop
    obtain ⟨v, hv⟩ := checkTextValue_sound (List.append_eq_nil_iff.1 h).1
    rw [if_neg hop, hv]
    exact exists_textTest happ hop v

/-- A condition on a text field that is not read has a defect. -/
theorem checkText_sound {f : TextField} {op : Operator} (happ : op.appliesTo .text = true) :
    (checkText f op members).Sound := by
  intro h
  have hd : (checkTextTest op members).defects = [] := by
    simp only [checkText, List.append_eq_nil_iff] at h
    exact h.1.1.1
  obtain ⟨t, ht⟩ := checkTextTest_sound happ hd
  unfold checkText
  dsimp only
  rw [ht]
  exact ⟨_, rfl⟩

/-- An operator for numbers that is not `between` has a test for every number. -/
theorem exists_numericTest {op : Operator} (happ : op.appliesTo .numeric = true)
    (hop : op ≠ .between) (v : Decimal) : ∃ t, op.numericTest? v = some t := by
  cases op with
  | equals => exact ⟨_, rfl⟩
  | notEquals => exact ⟨_, rfl⟩
  | greaterThan => exact ⟨_, rfl⟩
  | lessThan => exact ⟨_, rfl⟩
  | between => exact absurd rfl hop
  | _ => cases happ

/-- Bounds without defects are read as a test. -/
theorem checkBounds_sound (h : (checkBounds members).defects = []) :
    ∃ t, (checkBounds members).test = some t := by
  simp only [checkBounds, List.append_eq_nil_iff] at h
  obtain ⟨⟨⟨hmin, hmax⟩, -⟩, -⟩ := h
  obtain ⟨a, ha⟩ := checkNumber_sound hmin
  obtain ⟨b, hb⟩ := checkNumber_sound hmax
  unfold checkBounds
  dsimp only
  rw [ha, hb]
  exact ⟨_, rfl⟩

/-- A single number without defects is read as a test, if its operator is one
for single numbers. -/
theorem checkSingle_sound {op : Operator} (happ : op.appliesTo .numeric = true)
    (hop : op ≠ .between) (h : (checkSingle op members).defects = []) :
    ∃ t, (checkSingle op members).test = some t := by
  simp only [checkSingle, List.append_eq_nil_iff] at h
  obtain ⟨v, hv⟩ := checkNumber_sound h.1
  unfold checkSingle
  dsimp only
  rw [hv]
  exact exists_numericTest happ hop v

/-- A condition on a numeric field that is not read has a defect. -/
theorem checkNumeric_sound {f : NumericField} {op : Operator}
    (happ : op.appliesTo .numeric = true) : (checkNumeric f op members).Sound := by
  intro h
  simp only [checkNumeric, List.append_eq_nil_iff] at h
  obtain ⟨⟨⟨hd, -⟩, -⟩, -⟩ := h
  unfold checkNumeric
  dsimp only
  split at hd
  · rename_i hop
    obtain ⟨t, ht⟩ := checkBounds_sound hd
    rw [if_pos hop, ht]
    exact ⟨_, rfl⟩
  · rename_i hop
    obtain ⟨t, ht⟩ := checkSingle_sound happ hop hd
    rw [if_neg hop, ht]
    exact ⟨_, rfl⟩

/-- **A condition without faults is read**, so none is dropped: this is why an
accepted body has as many conditions as its text. -/
theorem checkMembers_sound (members : Members) : (checkMembers members).Sound := by
  rcases checkMembers_cases members with ⟨f, op, -, -, heq⟩ | ⟨hne, -⟩
  · rw [heq]
    unfold checkBody
    split
    · rename_i happ
      cases f with
      | text f => exact checkText_sound happ
      | numeric f => exact checkNumeric_sound happ
    · exact Checked.sound_fail
  · exact fun h => absurd h hne

/-- An item that is not read has a defect. -/
theorem checkItem_sound (j : Json) : (checkItem j).Sound := by
  unfold checkItem
  split
  · rename_i members
    dsimp only
    split
    · exact checkMembers_sound members
    · rename_i hne
      exact fun h => absurd (List.isEmpty_iff.2 h) hne
  · exact Checked.sound_fail

/-- **An item passes if and only if the grammar has it.** One direction reads
the checks off the members, the other builds the members from what passed. -/
theorem checkItem_passes {j : Json} {c : Condition} : (checkItem j).Passes c ↔ Item j c := by
  unfold checkItem Item
  cases j with
  | obj members =>
    simp only [Json.obj.injEq, exists_eq_left']
    rw [← checkMembers_passes]
    split
    · exact Iff.rfl
    · rename_i hne
      rw [Checked.passes_mk]
      exact ⟨nofun, fun h => absurd (List.isEmpty_iff.2 h.1) hne⟩
  | _ => simp

/-! ### Bodies -/

/-- Items have no faults if and only if each of them has no defect. -/
theorem itemFaults_eq_nil {index : Nat} {items : List Json} :
    itemFaults index items = [] ↔ ∀ j ∈ items, (checkItem j).defects = [] := by
  induction items generalizing index with
  | nil => simp [itemFaults]
  | cons j rest ih =>
    unfold itemFaults
    rw [List.append_eq_nil_iff, List.map_eq_nil_iff, ih, List.forall_mem_cons]

/-- Items without faults are read one by one. -/
theorem forall₂_item_iff {items : List Json} {conditions : List Condition} :
    List.Forall₂ Item items conditions ↔
      (∀ j ∈ items, (checkItem j).defects = []) ∧
        items.filterMap (fun j => (checkItem j).value) = conditions := by
  induction items generalizing conditions with
  | nil =>
    rw [List.forall₂_nil_left_iff]
    exact ⟨fun h => ⟨by simp, h.symm⟩, fun h => h.2.symm⟩
  | cons j rest ih =>
    have hcons : ∀ {c}, (checkItem j).value = some c →
        (j :: rest).filterMap (fun j => (checkItem j).value) =
          c :: rest.filterMap fun j => (checkItem j).value := fun hv =>
      List.filterMap_cons_some hv
    rw [List.forall_mem_cons]
    constructor
    · intro h
      cases h with
      | cons hj hrest =>
        obtain ⟨hd, hv⟩ := checkItem_passes.2 hj
        obtain ⟨hrd, hrv⟩ := ih.1 hrest
        exact ⟨⟨hd, hrd⟩, by rw [hcons hv, hrv]⟩
    · rintro ⟨⟨hd, hrd⟩, hv⟩
      obtain ⟨c, hc⟩ := checkItem_sound j hd
      rw [← hv, hcons hc]
      exact .cons (checkItem_passes.1 ⟨hd, hc⟩) (ih.2 ⟨hrd, rfl⟩)

/-- The logic is read where it is a text that names one in letters of any case. -/
theorem checkLogic_eq {l : Logic} : checkLogic members = ([], some l) ↔
    ∃ s, IsText members "logic" s ∧ Text.asciiCaseEq s l.name = true := by
  simp only [isText_iff]
  unfold checkLogic
  cases present? members "logic" with
  | none => simp
  | some j =>
    cases j with
    | str s =>
      simp only [Option.some.injEq, Json.str.injEq, exists_eq_left']
      rw [← Logic.ofName?_eq_some]
      cases Logic.ofName? s <;> simp
    | _ => simp

/-- The logic is read, or there is a fault. -/
theorem checkLogic_ok_or_fail (members : Members) :
    (∃ l, checkLogic members = ([], some l)) ∨ ∃ f, checkLogic members = ([f], none) := by
  unfold checkLogic
  split
  · exact .inr ⟨_, rfl⟩
  · split
    · exact .inl ⟨_, rfl⟩
    · exact .inr ⟨_, rfl⟩
  · exact .inr ⟨_, rfl⟩

/-- The list of conditions passes if it is there, is not empty, and each item
passes; what is read are the conditions of the items, in their places. -/
theorem checkItems_eq {conditions : List Condition} :
    checkItems members = ([], conditions) ↔ ∃ items,
      Json.member? members "conditions" = some (.arr items) ∧ items ≠ [] ∧
        List.Forall₂ Item items conditions := by
  unfold checkItems
  split
  · rename_i h
    simp [h]
  · rename_i items hne h
    simp only [h, Option.some.injEq, Json.arr.injEq, exists_eq_left', Prod.mk.injEq]
    rw [forall₂_item_iff, itemFaults_eq_nil]
    refine ⟨fun h => ⟨?_, h⟩, And.right⟩
    rintro rfl
    exact hne rfl
  · rename_i hne hnarr
    constructor
    · intro h
      cases h
    · rintro ⟨items, h, -⟩
      exact absurd h (hnarr items)

end Validation

open Validation

/-- **The validator accepts exactly the grammar**, in normal form.  The grammar
was written without looking at the validator, so neither is explained by the
other. -/
theorem validate_eq_accepted_iff {body : Json} {c : Conditions} :
    Conditions.validate body = .accepted c ↔ ∃ c₀, Grammar.Body body c₀ ∧ c = c₀.normalize := by
  unfold Grammar.Body
  cases body with
  | obj members =>
    simp only [Json.obj.injEq, exists_eq_left', ← checkLogic_eq, ← checkItems_eq]
    unfold Conditions.validate
    dsimp only
    generalize checkItems members = read
    obtain ⟨faults, items⟩ := read
    rcases checkLogic_ok_or_fail members with ⟨l, hl⟩ | ⟨f, hl⟩
    · rw [hl]
      cases faults with
      | nil =>
        constructor
        · intro h
          exact ⟨⟨l, items⟩, ⟨rfl, rfl⟩, (Verdict.accepted.inj h).symm⟩
        · rintro ⟨⟨l', items'⟩, ⟨hl', hi'⟩, rfl⟩
          obtain rfl := Option.some.inj (Prod.mk.inj hl').2
          obtain rfl := (Prod.mk.inj hi').2
          rfl
      | cons fault faults => simp
    · rw [hl]
      simp
  | _ =>
    constructor
    · intro h
      cases h
    · rintro ⟨_, ⟨_, h, -⟩, -⟩
      cases h

/-- A rejection gives a reason, so `valid` is false only with an error to show. -/
theorem ne_nil_of_rejected {body : Json} {faults : List Fault}
    (h : Conditions.validate body = .rejected faults) : faults ≠ [] := by
  unfold Conditions.validate at h
  split at h
  · rename_i members
    rcases checkLogic_ok_or_fail members with ⟨l, hl⟩ | ⟨f, hl⟩
    · rw [hl] at h
      dsimp only at h
      split at h
      · cases h
      · rename_i hne
        obtain rfl := Verdict.rejected.inj h
        intro h0
        exact hne l rfl (List.append_eq_nil_iff.1 h0).2
    · rw [hl] at h
      obtain rfl := Verdict.rejected.inj h
      exact nofun
  · obtain rfl := Verdict.rejected.inj h
    exact nofun

/-- **The validator accepts exactly the rule grammar.** A body is valid if and
only if it is in the grammar; then nothing is found wrong, and each item stands,
in normal form, in the place of its condition.  A body that is not valid comes
with a reason. -/
theorem validate_iff_grammar (body : Json) :
    ((Conditions.validate body).valid = true ↔ ∃ c, Grammar.Body body c) ∧
    ((Conditions.validate body).valid = true → (Conditions.validate body).faults = []) ∧
    (∀ c, Grammar.Body body c →
      (Conditions.validate body).conditions? = some ⟨c.logic, c.items.map Condition.normalize⟩) ∧
    ((Conditions.validate body).valid = false →
      (Conditions.validate body).faults ≠ [] ∧ (Conditions.validate body).conditions? = none) := by
  cases h : Conditions.validate body with
  | accepted c =>
    obtain ⟨c₀, hb, -⟩ := validate_eq_accepted_iff.1 h
    refine ⟨⟨fun _ => ⟨c₀, hb⟩, fun _ => rfl⟩, fun _ => rfl, fun c' hc' => ?_, nofun⟩
    rw [validate_eq_accepted_iff.2 ⟨c', hc', rfl⟩] at h
    obtain rfl := Verdict.accepted.inj h
    rfl
  | rejected faults =>
    have hno : ∀ c, ¬Grammar.Body body c := fun c hc => by
      rw [validate_eq_accepted_iff.2 ⟨c, hc, rfl⟩] at h
      cases h
    exact ⟨⟨nofun, fun ⟨c, hc⟩ => absurd hc (hno c)⟩, nofun, fun c hc => absurd hc (hno c),
      fun _ => ⟨ne_nil_of_rejected h, rfl⟩⟩

end LedgerRules
