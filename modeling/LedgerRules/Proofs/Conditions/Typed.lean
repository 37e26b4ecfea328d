/-
# Bodies that nobody validated

A body can be put together from its conditions, without a validator.  Whatever
it is, it has a written form, and that form is validated when it is read.
Nothing in it clashes: a written condition says what it comes back as
(`Grammar.item_toJson_iff`), so all that is left to refuse is a body without
conditions or a condition that does not fit.

Where the numbers are written without loss, a condition comes back with equal
numbers (`Condition.Rereads.sameValue`).  So it fits when read again exactly
where it fitted before, and the body that is read is the normal form of the one
that was written.
-/

import LedgerRules.Proofs.Conditions.Stored

namespace LedgerRules

/-- A decimal that is written without loss comes back with its value. -/
theorem Decimal.Rereads.value_eq {d e : Decimal} (h : d.Rereads e) (hd : d.WrittenExactly) :
    e.value = d.value := by
  obtain ⟨e', he', hv⟩ := Decimal.writtenExactly_iff.1 hd
  obtain rfl := Option.some.inj (h.symm.trans he')
  exact hv

namespace NumericTest

variable {f : NumericField} {t t' : NumericTest}

/-- A test whose numbers are written without loss comes back with equal numbers. -/
theorem Rereads.sameValue (h : t.Rereads t') (hn : ∀ d ∈ t.numbers, d.WrittenExactly) :
    t'.sameValue t = true := by
  obtain ⟨hop, hnumbers⟩ := rereads_iff.1 h
  have hboth := (List.forall₂_and_left _ _).2 ⟨hn, hnumbers⟩
  exact sameValue_iff.2 ⟨hop, hboth.imp fun _ _ hd => hd.2.value_eq hd.1⟩

/-- Tests of equal values are so in either order. -/
theorem sameValue_symm (h : t'.sameValue t = true) : t.sameValue t' = true := by
  obtain ⟨hop, hv⟩ := sameValue_iff.1 h
  exact sameValue_iff.2 ⟨hop.symm, hv.flip.imp fun _ _ he => he.symm⟩

/-- Of two tests of equal values both fit, or neither does. -/
theorem fits_congr (h : t'.sameValue t = true) : t'.Fits f ↔ t.Fits f :=
  ⟨fun ht => ht.of_sameValue (sameValue_symm h), fun ht => ht.of_sameValue h⟩

end NumericTest

namespace Condition

variable {x y : Condition}

/-- A condition whose numbers are written without loss comes back as something. -/
theorem exists_rereads (hn : ∀ d ∈ x.numbers, d.WrittenExactly) : ∃ y, x.Rereads y := by
  cases x with
  | text f t cs => exact ⟨_, rfl⟩
  | numeric f t =>
    obtain ⟨t', hr, -⟩ := NumericTest.exists_rereads_iff.2 hn
    exact ⟨_, t', rfl, hr⟩

/-- What such a condition comes back as has the same normal form, numbers
compared by value. -/
theorem Rereads.sameValue (h : x.Rereads y) (hn : ∀ d ∈ x.numbers, d.WrittenExactly) :
    y.normalize.sameValue x.normalize = true := by
  cases x with
  | text f t cs =>
    obtain rfl := h
    simp [normalize_text, Condition.sameValue]
  | numeric f t =>
    obtain ⟨t', rfl, hr⟩ := h
    have hsame := hr.sameValue hn
    simpa [normalize, Condition.sameValue] using hsame

/-- It fits exactly where the condition did: what is asked of it goes by values. -/
theorem Rereads.fits_iff (h : x.Rereads y) (hn : ∀ d ∈ x.numbers, d.WrittenExactly) :
    y.Fits ↔ x.Fits := by
  cases x with
  | text f t cs =>
    obtain rfl := h
    exact Iff.rfl
  | numeric f t =>
    obtain ⟨t', rfl, hr⟩ := h
    exact NumericTest.fits_congr (hr.sameValue hn)

end Condition

namespace Conditions

variable {c c' : Conditions}

/-- A body whose numbers are written without loss is accepted if it has a
condition and all its conditions fit. -/
theorem valid_toJson_iff (hn : ∀ d ∈ c.numbers, d.WrittenExactly) :
    (validate c.toJson).valid = true ↔ c.items ≠ [] ∧ ∀ x ∈ c.items, x.Fits := by
  have hnumbers : ∀ x ∈ c.items, ∀ d ∈ x.numbers, d.WrittenExactly :=
    fun x hx d hd => hn d (List.mem_flatMap.2 ⟨x, hx, hd⟩)
  constructor
  · intro h
    cases hv : validate c.toJson with
    | rejected faults => rw [hv] at h; exact absurd h Bool.false_ne_true
    | accepted c' =>
      obtain ⟨hne, items, hall, -⟩ := validate_toJson_iff.1 hv
      refine ⟨hne, fun x hx => ?_⟩
      obtain ⟨y, -, hr, hy⟩ := exists_of_forall₂ hall x hx
      exact (hr.fits_iff (hnumbers x hx)).1 hy
  · rintro ⟨hne, hfits⟩
    have hback : ∀ x ∈ c.items, ∃ y, x.Rereads y ∧ y.Fits := by
      intro x hx
      obtain ⟨y, hr⟩ := Condition.exists_rereads (hnumbers x hx)
      exact ⟨y, hr, (hr.fits_iff (hnumbers x hx)).2 (hfits x hx)⟩
    obtain ⟨items, hall⟩ := exists_forall₂ hback
    rw [validate_toJson_iff.2 ⟨hne, items, hall, rfl⟩]
    rfl

/-- What is accepted then is the normal form of the body, numbers compared by
value. -/
theorem sameValue_of_validate_toJson (hn : ∀ d ∈ c.numbers, d.WrittenExactly)
    (h : validate c.toJson = .accepted c') : c'.sameValue c.normalize = true := by
  obtain ⟨-, items, hall, rfl⟩ := validate_toJson_iff.1 h
  refine sameValue_iff.2 ⟨rfl, ?_⟩
  unfold normalize
  rw [List.forall₂_map_left_iff, List.forall₂_map_right_iff]
  have hmem := (List.forall₂_and_left _ _).2 ⟨fun x hx => hx, hall⟩
  refine List.Forall₂.flip (hmem.imp fun x y hxy => ?_)
  obtain ⟨hx, hr, -⟩ := hxy
  exact hr.sameValue fun d hd => hn d (List.mem_flatMap.2 ⟨x, hx, hd⟩)

end Conditions

/-- **Any body of whole numbers is normalized by being read, or refused for what
it says.** However it was put together, its written form is accepted if and only
if the body has a condition and each condition fits: `contains_any` has a value,
a pattern can be read, bounds are in order and those of an amount not negative,
and the numbers of a direction are codes.  What is accepted is its normal form,
numbers compared by value. -/
theorem typed_body_is_normalized_or_refused {c : Conditions} (h : c.FitsCell) :
    ((Conditions.validate c.toJson).valid = true ↔ c.items ≠ [] ∧ ∀ x ∈ c.items, x.Fits) ∧
      ∀ c', Conditions.validate c.toJson = .accepted c' → c'.sameValue c.normalize = true := by
  have hn : ∀ d ∈ c.numbers, d.WrittenExactly := fun d hd => .inl (h d hd)
  exact ⟨Conditions.valid_toJson_iff hn, fun _ => Conditions.sameValue_of_validate_toJson hn⟩

namespace Sample

/-- Two, written as `2.00`. -/
def twoFlat : Decimal := (Decimal.ofParts? 200 2).getD .zero

/-- Twenty-five. -/
def twentyFive : Decimal := .ofInt32 25

/-- `2.00` is a whole number. -/
theorem whole?_twoFlat : twoFlat.whole? = some 2 := by decide

/-- So is 25. -/
theorem whole?_twentyFive : twentyFive.whole? = some 25 := by decide

/-- Amounts from `2.00` to `25`, at shops whose names begin with a capital or at
banks that match a pattern; where nothing says whether case counts it does not. -/
def handMade : Conditions :=
  ⟨.or, [.numeric .amount (.between twoFlat twentyFive),
    .text .merchant (.startsWith "ÉCLAIR") none, .text .bank (.regex "\\Dx+") (some true)]⟩

/-- The same body with a list of values that has none. -/
def hollow : Conditions :=
  ⟨.or, handMade.items ++ [.text .merchant (.containsAny []) none]⟩

/-- The numbers of the hand-made body are whole, so its text gives them back. -/
theorem fitsCell_handMade : handMade.FitsCell := by
  intro d hd
  obtain rfl | rfl : d = twoFlat ∨ d = twentyFive := by
    simpa [handMade, Conditions.numbers, Condition.numbers, NumericTest.numbers] using hd
  · exact ⟨2, whole?_twoFlat, by decide⟩
  · exact ⟨25, whole?_twentyFive, by decide⟩

/-- And all of its conditions fit. -/
theorem fits_handMade : ∀ x ∈ handMade.items, x.Fits := by
  have htwo : twoFlat.value = 2 := Decimal.whole?_eq_some.1 whole?_twoFlat
  have htwentyFive : twentyFive.value = 25 := Decimal.whole?_eq_some.1 whole?_twentyFive
  have hbetween : NumericTest.Fits .amount (.between twoFlat twentyFive) := by
    refine ⟨?_, fun _ => ?_, fun h => absurd h (by decide)⟩
    all_goals
      rintro min max h
      obtain ⟨rfl, rfl⟩ := NumericTest.between.inj h
      norm_num [htwo, htwentyFive]
  have hpattern : (Pattern.compile? false "\\Dx+").isSome = true := by decide +kernel
  simp only [handMade, List.forall_mem_cons]
  exact ⟨hbetween, trivial, hpattern, List.forall_mem_nil _⟩

end Sample

/-- A hand-made body comes back in normal form; with an empty list of values it
is refused. -/
theorem hand_made_body_is_normalized :
    Sample.handMade.FitsCell ∧ Sample.hollow.FitsCell ∧
      (∃ c', Conditions.validate Sample.handMade.toJson = .accepted c' ∧
        c'.sameValue ⟨.or, [Sample.handMade.items[0],
          .text .merchant (.startsWith "éclair") (some false),
          .text .bank (.regex "\\Dx+") (some true)]⟩ = true) ∧
      (Conditions.validate Sample.hollow.toJson).valid = false := by
  have hollow : Sample.hollow.FitsCell := by
    intro d hd
    refine Sample.fitsCell_handMade d ?_
    simpa [Sample.hollow, Sample.handMade, Conditions.numbers, Condition.numbers] using hd
  have hnormal : Sample.handMade.normalize = ⟨.or, [Sample.handMade.items[0],
      .text .merchant (.startsWith "éclair") (some false),
      .text .bank (.regex "\\Dx+") (some true)]⟩ := by
    decide +kernel
  obtain ⟨hvalid, hsame⟩ := typed_body_is_normalized_or_refused Sample.fitsCell_handMade
  refine ⟨Sample.fitsCell_handMade, hollow, ?_, ?_⟩
  · have haccepted := hvalid.2 ⟨by decide, Sample.fits_handMade⟩
    cases hv : Conditions.validate Sample.handMade.toJson with
    | accepted c' => exact ⟨c', rfl, hnormal ▸ hsame c' hv⟩
    | rejected faults => rw [hv] at haccepted; cases haccepted
  · rw [Bool.eq_false_iff]
    intro h
    have hempty := ((typed_body_is_normalized_or_refused hollow).1.1 h).2
      (.text .merchant (.containsAny []) none) (List.mem_append_right _ List.mem_cons_self)
    exact hempty rfl

end LedgerRules
