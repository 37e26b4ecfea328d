/-
# Reading a stored body again

A body is stored in its written form and validated again when it is loaded.
Texts come back as they were written, and a body in normal form is its own
normal form, so nothing but a number can change on the way: a decimal is written
as a whole number of 64 bits with sign, if it is one, and as a double otherwise,
and a double is read as the digits it is written with.

`validate_toJson_iff` says what becomes of any body that is written and
validated again.  For one that was accepted this comes down to its numbers
(`accepted_again_iff`): a whole number past the signed range, which is accepted
as it stands, may come back as another one.
-/

import LedgerRules.Proofs.Conditions.Acceptance
import LedgerRules.Proofs.Lists
import LedgerRules.Proofs.Text.Lowercase

namespace LedgerRules

/-! ### Numbers -/

/-- A decimal that is written comes back as another: `json_to_decimal` reads it
from what `decimal_to_json` writes. -/
def Decimal.Rereads (d e : Decimal) : Prop := (Number.ofDecimal d).toDecimal? = some e

/-- A decimal is written without loss: as a whole number of 64 bits with sign,
or as a double whose digits have its value. -/
def Decimal.WrittenExactly (d : Decimal) : Prop :=
  (∃ n, d.whole? = some n ∧ Number.fitsSigned n = true) ∨
    ∃ e, Decimal.ofDouble? d.toDouble = some e ∧ e.sameValue d = true

/-- A whole number of 64 bits with sign comes back with its value. -/
theorem Decimal.rereads_of_fitsSigned {d : Decimal} {n : Int} (h : d.whole? = some n)
    (hn : Number.fitsSigned n = true) : ∃ e, d.Rereads e ∧ e.value = d.value := by
  have hlt : n.natAbs < Decimal.coeffLimit := by
    unfold Number.fitsSigned at hn
    rw [Bool.and_eq_true, decide_eq_true_iff, decide_eq_true_iff] at hn
    unfold Decimal.coeffLimit
    omega
  obtain ⟨e, he⟩ := Decimal.exists_ofInt? hlt
  refine ⟨e, ?_, ?_⟩
  · unfold Decimal.Rereads Number.ofDecimal
    rw [h]
    dsimp only
    rw [if_pos hn]
    exact he
  · rw [Decimal.value_ofInt? he, Decimal.whole?_eq_some.1 h]

/-- A decimal comes back with its value exactly where it is written without
loss. -/
theorem Decimal.writtenExactly_iff {d : Decimal} :
    d.WrittenExactly ↔ ∃ e, d.Rereads e ∧ e.value = d.value := by
  by_cases hfit : ∃ n, d.whole? = some n ∧ Number.fitsSigned n = true
  · obtain ⟨n, hn, hs⟩ := hfit
    exact ⟨fun _ => Decimal.rereads_of_fitsSigned hn hs, fun _ => .inl ⟨n, hn, hs⟩⟩
  · have hdouble : Number.ofDecimal d = .double d.toDouble := by
      unfold Number.ofDecimal
      split
      · rename_i n hn
        rw [if_neg fun hs => hfit ⟨n, hn, hs⟩]
      · rfl
    unfold Decimal.WrittenExactly Decimal.Rereads
    rw [hdouble]
    simp only [hfit, false_or, Decimal.sameValue_iff]
    exact Iff.rfl

/-! ### Conditions -/

/-- A test comes back as another, number by number.  The operator stays, since
its name is written out. -/
def NumericTest.Rereads : NumericTest → NumericTest → Prop
  | equals a, equals b => a.Rereads b
  | notEquals a, notEquals b => a.Rereads b
  | greaterThan a, greaterThan b => a.Rereads b
  | lessThan a, lessThan b => a.Rereads b
  | between a c, between b d => a.Rereads b ∧ c.Rereads d
  | _, _ => False

/-- A condition comes back as another; a text condition as it is.  Only numbers
pass through a form that may not hold them. -/
def Condition.Rereads : Condition → Condition → Prop
  | text f t c, d => d = text f t c
  | numeric f t, d => ∃ t', d = numeric f t' ∧ t.Rereads t'

/-- A test comes back with its operator. -/
theorem NumericTest.Rereads.operator_eq {t t' : NumericTest} (h : t.Rereads t') :
    t'.operator = t.operator := by
  cases t <;> cases t' <;> first | rfl | cases h

namespace Grammar

variable {members : Members}

/-- A written text condition says itself, with its case flag and all of its
values. -/
theorem says_text {f : TextField} {t : TextTest} {caseSensitive : Option Bool}
    (h : (Condition.text f t caseSensitive).toJson = .obj members) :
    Says members (.text f t caseSensitive) := by
  obtain rfl := Json.obj.inj h
  cases caseSensitive with
  | none =>
    cases t with
    | containsAny values => exact .text rfl rfl rfl (.inl rfl) ⟨rfl, .inl rfl⟩
    | _ v => exact .text rfl rfl rfl (.inl rfl) ⟨.inl rfl, .inl rfl⟩
  | some b =>
    cases t with
    | containsAny values => exact .text rfl rfl rfl rfl ⟨rfl, .inl rfl⟩
    | _ v => exact .text rfl rfl rfl rfl ⟨.inl rfl, .inl rfl⟩

/-- A number in the written form is read as what it comes back as. -/
theorem isNumber_numberJson {key : String} {v d : Decimal}
    (h : Json.member? members key = some (Condition.numberJson v)) :
    IsNumber members key d ↔ v.Rereads d := by
  unfold IsNumber Decimal.Rereads
  rw [h]
  unfold Condition.numberJson
  simp

/-- The values of a written numeric condition, read again. -/
theorem numericValues_toJson {f : NumericField} {t t' : NumericTest}
    (h : (Condition.numeric f t).toJson = .obj members) (hop : t'.operator = t.operator) :
    NumericValues members t' ↔ t.Rereads t' := by
  cases t <;> cases t' <;> try cases hop
  case between.between =>
    obtain rfl := Json.obj.inj h
    exact and_congr (isNumber_numberJson rfl)
      ((and_iff_left (.inl rfl)).trans (isNumber_numberJson rfl))
  all_goals
    obtain rfl := Json.obj.inj h
    exact (and_iff_left (.inl rfl)).trans (isNumber_numberJson rfl)

/-- What a written numeric condition says is what its numbers come back as. -/
theorem says_numeric_iff {f : NumericField} {t : NumericTest}
    (h : (Condition.numeric f t).toJson = .obj members) {d : Condition} :
    Says members d ↔ (Condition.numeric f t).Rereads d := by
  obtain ⟨hf, ho, hcur, hcase⟩ : IsText members "field" f.name ∧
      IsText members "operator" t.operator.name ∧ Json.member? members "currency" = none ∧
      Json.member? members "case_sensitive" = none := by
    cases t <;>
    · obtain rfl := Json.obj.inj h
      exact ⟨rfl, rfl, rfl, rfl⟩
  constructor
  · intro hd
    have hfield : d.field = .numeric f := Field.name_inj (hd.isText_field.unique hf)
    have hop : d.operator = t.operator := Operator.name_inj (hd.isText_operator.unique ho)
    cases hd with
    | text _ _ _ _ _ => exact Field.noConfusion hfield
    | @numeric f' t' _ _ _ _ hv =>
      obtain rfl := Field.numeric.inj hfield
      exact ⟨t', rfl, (numericValues_toJson h hop).1 hv⟩
  · rintro ⟨t', rfl, hr⟩
    have hop := hr.operator_eq
    exact .numeric hf (hop.symm ▸ ho) hcur (.inl hcase) ((numericValues_toJson h hop).2 hr)

/-- **A written condition says what it comes back as**, and nothing else.  It is
a condition of the grammar only if what it comes back as fits. -/
theorem item_toJson_iff {c d : Condition} : Item c.toJson d ↔ c.Rereads d ∧ d.Fits := by
  have hsaid : ∀ members, c.toJson = .obj members → (Says members d ↔ c.Rereads d) := by
    intro members h
    cases c with
    | text f t cs =>
      refine ⟨fun hd => hd.unique (says_text h), ?_⟩
      rintro rfl
      exact says_text h
    | numeric f t => exact says_numeric_iff h
  obtain ⟨members, h⟩ : ∃ members, c.toJson = .obj members := by
    cases c with
    | text f t cs => exact ⟨_, rfl⟩
    | numeric f t => cases t <;> exact ⟨_, rfl⟩
  unfold Item
  rw [h]
  simp only [Json.obj.injEq, exists_eq_left', hsaid members h]

/-- **A written body says what its conditions come back as**, in its own logic
and in their order. -/
theorem body_toJson_iff {c d : Conditions} : Body c.toJson d ↔ d.logic = c.logic ∧ c.items ≠ [] ∧
    List.Forall₂ (fun x y => x.Rereads y ∧ y.Fits) c.items d.items := by
  have hname : ∀ l : Logic, Logic.ofName? l.name = some l := fun l => by cases l <;> decide
  constructor
  · rintro ⟨members, h, ⟨s, hs, heq⟩, items, hi, hne, hall⟩
    obtain rfl := Json.obj.inj h
    have hs : some (Json.str c.logic.name) = some (.str s) := hs
    obtain rfl := Json.str.inj (Option.some.inj hs)
    have hi : some (Json.arr (c.items.map Condition.toJson)) = some (.arr items) := hi
    obtain rfl := Json.arr.inj (Option.some.inj hi)
    rw [List.forall₂_map_left_iff] at hall
    refine ⟨?_, fun h0 => hne (by rw [h0, List.map_nil]), hall.imp fun _ _ => item_toJson_iff.1⟩
    exact Option.some.inj ((Logic.ofName?_eq_some.2 heq).symm.trans (hname c.logic))
  · rintro ⟨hl, hne, hall⟩
    refine ⟨_, rfl, ⟨c.logic.name, rfl, ?_⟩, _, rfl, fun h0 => hne (List.map_eq_nil_iff.1 h0), ?_⟩
    · rw [hl, ← Logic.ofName?_eq_some]
      exact hname c.logic
    · rw [List.forall₂_map_left_iff]
      exact hall.imp fun _ _ => item_toJson_iff.2

end Grammar

/-- **What becomes of a body that is written and validated again**: it is
accepted if it has a condition, and all its conditions fit as they come back. -/
theorem validate_toJson_iff {c c' : Conditions} : Conditions.validate c.toJson = .accepted c' ↔
    c.items ≠ [] ∧ ∃ items, List.Forall₂ (fun x y => x.Rereads y ∧ y.Fits) c.items items ∧
      c' = Conditions.normalize ⟨c.logic, items⟩ := by
  rw [validate_eq_accepted_iff]
  constructor
  · rintro ⟨d, hb, rfl⟩
    obtain ⟨hl, hne, hall⟩ := Grammar.body_toJson_iff.1 hb
    exact ⟨hne, d.items, hall, by rw [← hl]⟩
  · rintro ⟨hne, items, hall, rfl⟩
    exact ⟨⟨c.logic, items⟩, Grammar.body_toJson_iff.2 ⟨rfl, hne, hall⟩, rfl⟩

/-! ### Normal forms -/

/-- Lowercase letters are their own lowercase, so values that are in normal form
stay as they are. -/
theorem TextTest.lowered_lowered (t : TextTest) : t.lowered.lowered = t.lowered := by
  cases t <;> simp [TextTest.lowered, TextTest.mapValues, Text.lower_lower]

/-- In normal form a text condition says whether case counts, and is in
lowercase if it does not. -/
theorem Condition.normalize_text (f : TextField) (t : TextTest) (cs : Option Bool) :
    (text f t cs).normalize =
      text f (if cs.getD false then t else t.lowered) (some (cs.getD false)) := rfl

/-- **The normal form of a condition is its own normal form.** Lowercase letters
have no further lowercase, which takes a look at the whole table. -/
theorem Condition.normalize_normalize (c : Condition) : c.normalize.normalize = c.normalize := by
  cases c with
  | text f t cs =>
    rw [normalize_text, normalize_text, Option.getD_some]
    cases cs.getD false with
    | false => simp [TextTest.lowered_lowered]
    | true => simp
  | numeric f t => rfl

/-- A condition that fits does so in normal form. -/
theorem Condition.Fits.normalize {c : Condition} (h : c.Fits) : c.normalize.Fits := by
  cases c with
  | text f t cs =>
    rw [normalize_text]
    cases cs.getD false with
    | true => exact h
    | false =>
      cases t with
      | containsAny values => exact fun h0 => h (List.map_eq_nil_iff.1 h0)
      | regex pattern => exact h
      | _ v => trivial
  | numeric f t => exact h

/-- The conditions of an accepted body fit, and they are in normal form. -/
theorem fits_of_accepted {body : Json} {c : Conditions}
    (h : Conditions.validate body = .accepted c) :
    c.items ≠ [] ∧ ∀ x ∈ c.items, x.Fits ∧ x.normalize = x := by
  obtain ⟨d, ⟨members, -, -, items, -, hne, hall⟩, rfl⟩ := validate_eq_accepted_iff.1 h
  constructor
  · intro h0
    rw [List.map_eq_nil_iff.1 h0] at hall
    exact hne (List.forall₂_nil_right_iff.1 hall)
  · intro x hx
    obtain ⟨y, hy, rfl⟩ := List.mem_map.1 hx
    obtain ⟨j, -, hj⟩ := exists_of_forall₂ hall.flip y hy
    obtain ⟨-, -, -, hfits⟩ := hj
    exact ⟨hfits.normalize, y.normalize_normalize⟩

/-! ### Accepted bodies -/

/-- The numbers of a condition.  They decide alone whether it comes back as it
was. -/
def Condition.numbers : Condition → List Decimal
  | text _ _ _ => []
  | numeric _ t => t.numbers

/-- The numbers of a body, condition by condition. -/
def Conditions.numbers (c : Conditions) : List Decimal := c.items.flatMap Condition.numbers

namespace NumericTest

variable {f : NumericField} {t t' : NumericTest}

/-- A test comes back with its operator, number by number. -/
theorem rereads_iff : t.Rereads t' ↔
    t'.operator = t.operator ∧ List.Forall₂ Decimal.Rereads t.numbers t'.numbers := by
  cases t <;> cases t' <;> simp [Rereads, operator, numbers]

/-- Two tests have the same value if they have the same operator and their
numbers are equal one by one. -/
theorem sameValue_iff : t'.sameValue t = true ↔ t'.operator = t.operator ∧
    List.Forall₂ (fun d e => e.value = d.value) t.numbers t'.numbers := by
  cases t <;> cases t' <;> simp [sameValue, operator, numbers, Decimal.sameValue_iff]

/-- A test takes any numbers in place of its own, as long as there are as many
of them. -/
theorem exists_numbers {values : List Decimal} (h : values.length = t.numbers.length) :
    ∃ t' : NumericTest, t'.operator = t.operator ∧ t'.numbers = values := by
  cases t with
  | between min max =>
    obtain ⟨a, b, rfl⟩ := List.length_eq_two.1 h
    exact ⟨.between a b, rfl, rfl⟩
  | equals v =>
    obtain ⟨a, rfl⟩ := List.length_eq_one_iff.1 h
    exact ⟨.equals a, rfl, rfl⟩
  | notEquals v =>
    obtain ⟨a, rfl⟩ := List.length_eq_one_iff.1 h
    exact ⟨.notEquals a, rfl, rfl⟩
  | greaterThan v =>
    obtain ⟨a, rfl⟩ := List.length_eq_one_iff.1 h
    exact ⟨.greaterThan a, rfl, rfl⟩
  | lessThan v =>
    obtain ⟨a, rfl⟩ := List.length_eq_one_iff.1 h
    exact ⟨.lessThan a, rfl, rfl⟩

/-- A test comes back in value exactly where its numbers are written without
loss. -/
theorem exists_rereads_iff :
    (∃ t', t.Rereads t' ∧ t'.sameValue t = true) ↔ ∀ d ∈ t.numbers, d.WrittenExactly := by
  simp only [Decimal.writtenExactly_iff]
  constructor
  · rintro ⟨t', hr, hs⟩
    have hboth := List.Forall₂.mp (fun _ _ h h' => And.intro h h') (rereads_iff.1 hr).2
      (sameValue_iff.1 hs).2
    intro d hd
    obtain ⟨e, -, he⟩ := exists_of_forall₂ hboth d hd
    exact ⟨e, he⟩
  · intro h
    obtain ⟨values, hv⟩ := exists_forall₂ h
    obtain ⟨t', hop, rfl⟩ := exists_numbers hv.length_eq.symm
    exact ⟨t', rereads_iff.2 ⟨hop, hv.imp fun _ _ h => h.1⟩,
      sameValue_iff.2 ⟨hop, hv.imp fun _ _ h => h.2⟩⟩

/-- Tests of equal values fit alike. -/
theorem Fits.of_sameValue (h : t.Fits f) (hs : t'.sameValue t = true) : t'.Fits f := by
  obtain ⟨hop, hv⟩ := sameValue_iff.1 hs
  have hbetween : ∀ a b, t' = between a b →
      ∃ a₀ b₀, t = between a₀ b₀ ∧ a.value = a₀.value ∧ b.value = b₀.value := by
    rintro a b rfl
    cases t with
    | between a₀ b₀ => simpa [numbers] using hv
    | _ => cases hop
  constructor
  · intro a b ht
    obtain ⟨a₀, b₀, rfl, ha, hb⟩ := hbetween a b ht
    rw [ha, hb]
    exact h.ordered a₀ b₀ rfl
  · intro hf a b ht
    obtain ⟨a₀, b₀, rfl, ha, hb⟩ := hbetween a b ht
    rw [ha, hb]
    exact h.amount hf a₀ b₀ rfl
  · intro hf d hd
    obtain ⟨d₀, hd₀, he⟩ := exists_of_forall₂ hv.flip d hd
    have he : d.value = d₀.value := he
    rw [he]
    exact h.direction hf d₀ hd₀

end NumericTest

namespace Condition

/-- A condition comes back in value exactly where its numbers are written
without loss, and then it fits and is in normal form as before. -/
theorem exists_rereads_iff {c : Condition} (hfits : c.Fits) (hn : c.normalize = c) :
    (∃ d, (c.Rereads d ∧ d.Fits) ∧ d.normalize.sameValue c = true) ↔
      ∀ d ∈ c.numbers, d.WrittenExactly := by
  cases c with
  | text f t cs =>
    refine ⟨fun _ => nofun, fun _ => ⟨_, ⟨rfl, hfits⟩, ?_⟩⟩
    rw [hn]
    simp [sameValue]
  | numeric f t =>
    rw [numbers, ← NumericTest.exists_rereads_iff]
    constructor
    · rintro ⟨d, ⟨⟨t', rfl, hr⟩, -⟩, hs⟩
      refine ⟨t', hr, ?_⟩
      simpa [sameValue, normalize] using hs
    · rintro ⟨t', hr, hs⟩
      refine ⟨.numeric f t', ⟨⟨t', rfl, hr⟩, NumericTest.Fits.of_sameValue hfits hs⟩, ?_⟩
      simpa [sameValue, normalize] using hs

end Condition

/-- Two bodies have the same value if they have the same logic and their
conditions do, one by one. -/
theorem Conditions.sameValue_iff {a b : Conditions} : a.sameValue b = true ↔
    a.logic = b.logic ∧ List.Forall₂ (fun x y => x.sameValue y = true) a.items b.items := by
  unfold Conditions.sameValue
  rw [Bool.and_eq_true, Bool.and_eq_true, beq_iff_eq, beq_iff_eq, and_assoc,
    List.forall₂_iff_zip, List.all_eq_true]
  simp only [Prod.forall]

namespace Conditions

variable {body : Json} {c : Conditions}

/-- The numbers of an accepted body are written without loss if each of its
conditions comes back as one of equal value that is accepted. -/
theorem writtenExactly_iff (h : validate body = .accepted c) :
    (∀ d ∈ c.numbers, d.WrittenExactly) ↔
      ∀ x ∈ c.items, ∃ y, (x.Rereads y ∧ y.Fits) ∧ y.normalize.sameValue x = true := by
  obtain ⟨-, hitems⟩ := fits_of_accepted h
  unfold numbers
  rw [List.forall_mem_flatMap]
  refine forall₂_congr fun x hx => ?_
  exact (Condition.exists_rereads_iff (hitems x hx).1 (hitems x hx).2).symm

/-- A body whose numbers are written without loss is accepted again, with equal
numbers. -/
theorem exists_validate_toJson (h : validate body = .accepted c)
    (hnumbers : ∀ d ∈ c.numbers, d.WrittenExactly) :
    ∃ c', validate c.toJson = .accepted c' ∧ c'.sameValue c = true := by
  obtain ⟨items, hi⟩ := exists_forall₂ ((writtenExactly_iff h).1 hnumbers)
  refine ⟨_, validate_toJson_iff.2 ⟨(fits_of_accepted h).1, items,
    hi.imp fun _ _ h => h.1, rfl⟩, ?_⟩
  refine sameValue_iff.2 ⟨rfl, ?_⟩
  rw [normalize, List.forall₂_map_left_iff]
  exact List.Forall₂.flip (hi.imp fun _ _ h => h.2)

end Conditions

/-- **An accepted body is accepted again as it is, exactly where its numbers are
written without loss**: each is a whole number of 64 bits with sign, or the
digits of its double have its value. -/
theorem accepted_again_iff {body : Json} {c : Conditions}
    (h : Conditions.validate body = .accepted c) :
    (∃ c', Conditions.validate c.toJson = .accepted c' ∧ c'.sameValue c = true) ↔
      ∀ d ∈ c.numbers, (∃ n, d.whole? = some n ∧ Number.fitsSigned n = true) ∨
        ∃ e, Decimal.ofDouble? d.toDouble = some e ∧ e.sameValue d = true := by
  refine ⟨?_, Conditions.exists_validate_toJson h⟩
  rintro ⟨c', hc', hs⟩
  refine (Conditions.writtenExactly_iff h).2 ?_
  obtain ⟨-, items, hr, rfl⟩ := validate_toJson_iff.1 hc'
  obtain ⟨-, hv⟩ := Conditions.sameValue_iff.1 hs
  rw [Conditions.normalize, List.forall₂_map_left_iff] at hv
  have hboth := List.Forall₂.mp (fun _ _ h h' => And.intro h h') hr hv.flip
  intro x hx
  obtain ⟨y, -, hy⟩ := exists_of_forall₂ hboth x hx
  exact ⟨y, hy⟩

/-- The greatest whole number of 64 bits without sign.  JSON has it as a whole
number, but the body writes it back as a double. -/
def greatestUnsigned : Decimal := ⟨18446744073709551615, 0, Nat.zero_le _, by decide⟩

/-- A body that asks for amounts equal to it, which is accepted. -/
def asksGreatestUnsigned : Conditions := ⟨.and, [.numeric .amount (.equals greatestUnsigned)]⟩

/-- The greatest whole number without sign is accepted as it stands, but it is
written as a double whose digits end in `2000`, so the body is not accepted
again as it is. -/
theorem asksGreatestUnsigned_not_accepted_again :
    Conditions.validate (.obj [("logic", .str "and"), ("conditions", .arr [.obj
      [("field", .str "amount"), ("operator", .str "equals"),
        ("value", .num (.whole 18446744073709551615))]])]) = .accepted asksGreatestUnsigned ∧
      ¬∃ c', Conditions.validate asksGreatestUnsigned.toJson = .accepted c' ∧
        c'.sameValue asksGreatestUnsigned = true := by
  have h : Conditions.validate (.obj [("logic", .str "and"), ("conditions", .arr [.obj
      [("field", .str "amount"), ("operator", .str "equals"),
        ("value", .num (.whole 18446744073709551615))]])]) = .accepted asksGreatestUnsigned := by
    decide +kernel
  refine ⟨h, fun hex => ?_⟩
  have hwhole : greatestUnsigned.whole? = some 18446744073709551615 := by decide +kernel
  have hdouble : Decimal.ofDouble? greatestUnsigned.toDouble =
      some ⟨18446744073709552000, 0, by decide, by decide⟩ := by
    decide +kernel
  rcases (accepted_again_iff h).1 hex greatestUnsigned (List.mem_singleton.2 rfl) with
    ⟨n, hn, hs⟩ | ⟨e, he, hs⟩
  · obtain rfl := Option.some.inj (hwhole.symm.trans hn)
    exact absurd hs (by decide)
  · obtain rfl := Option.some.inj (hdouble.symm.trans he)
    exact absurd hs (by decide +kernel)

/-- Its predecessor is written alike, so bounds that were in order are not when
read again. -/
example : (Conditions.validate (Conditions.mk .and [.numeric .amount
    (.between ⟨18446744073709551614, 0, by decide, by decide⟩ greatestUnsigned)]).toJson).valid =
      false := by
  decide +kernel

end LedgerRules
