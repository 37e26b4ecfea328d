/-
# What is matched in its own case is matched when case is ignored

A condition that ignores case should match wherever it matches as it is written,
and one that asks for a difference should match less.  For the whole text this
holds: equal texts have equal lowercases.  A value that is looked for inside a
text has to be found again after both are lowercased, and there the capital
sigma stands in the way: `ΑΣ` alone is `ας`, and in `ΑΣΑ` it is `ασ`.

So the law holds for a value that is firm on the sides where the text may go on
(`Text.firm`, `Text.firmAtStart`, `Text.firmAtEnd`).  One value of several is
enough, if it is the one that is found.  For every test with one value nothing
less will do (`firm_matches_outlive_case`).
-/

import LedgerRules.Conditions.Evaluation
import LedgerRules.Proofs.Text.Sigma

namespace LedgerRules
namespace Text

/-- Whether no character around a value changes its lowercase.  Only a capital
sigma looks around itself, so a value is firm unless it has one at an end that
the text could go on from. -/
def firm (v : String) : Bool := firmAtStart [] v.toList && firmAtEnd [] v.toList

/-- Lowercase letters are computed character by character. -/
theorem toList_lower (s : String) : (lower s).toList = lowerChars s.toList := String.toList_ofList

/-- A text contains another if its characters stand in a row in it. -/
theorem contains_iff {s v : String} : contains s v = true ↔ v.toList <:+: s.toList := hasInfix_iff

/-- A text starts with another if its characters stand at the beginning. -/
theorem startsWith_iff {s v : String} : startsWith s v = true ↔ v.toList <+: s.toList :=
  List.isPrefixOf_iff_prefix

/-- A text ends with another if its characters stand at the end. -/
theorem endsWith_iff {s v : String} : endsWith s v = true ↔ v.toList <:+ s.toList :=
  List.isSuffixOf_iff_suffix

/-- What holds of all texts holds of all lists of characters. -/
theorem forall_toList {P : List Char → Prop} : (∀ raw : String, P raw.toList) ↔ ∀ cs, P cs :=
  ⟨fun h cs => String.toList_ofList (l := cs) ▸ h (String.ofList cs), fun h raw => h raw.toList⟩

/-- Exactly a firm value is found again in every text that holds it. -/
theorem firm_iff_contains {v : String} : firm v = true ↔
    ∀ raw, contains raw v = true → contains (lower raw) (lower v) = true := by
  simp only [contains_iff, toList_lower]
  exact firm_iff_infix.trans forall_toList.symm

/-- For a start only what may come behind the value matters. -/
theorem firm_iff_startsWith {v : String} : firmAtEnd [] v.toList = true ↔
    ∀ raw, startsWith raw v = true → startsWith (lower raw) (lower v) = true := by
  simp only [startsWith_iff, toList_lower]
  exact firmAtEnd_iff_prefix.trans forall_toList.symm

/-- For an end only what may stand before the value matters. -/
theorem firm_iff_endsWith {v : String} : firmAtStart [] v.toList = true ↔
    ∀ raw, endsWith raw v = true → endsWith (lower raw) (lower v) = true := by
  simp only [endsWith_iff, toList_lower]
  exact firmAtStart_iff_suffix.trans forall_toList.symm

end Text

/-- Whether the values of a test are firm where a text may go on around them; of
several values, one that the text holds. -/
def TextTest.firmIn (raw : String) : TextTest → Bool
  | equals _ => true
  | notEquals _ => true
  | contains v => Text.firm v
  | notContains v => Text.firm v
  | startsWith v => Text.firmAtEnd [] v.toList
  | endsWith v => Text.firmAtStart [] v.toList
  | containsAny vs => vs.any fun v => Text.contains raw v && Text.firm v
  | regex _ => true

/-- The operators that ask for an agreement with a text, so that a match can be
lost when case is ignored.  `regex` is left out: its pattern is not lowercased. -/
def Operator.asksAgreement : Operator → Bool
  | equals | contains | startsWith | endsWith | containsAny => true
  | _ => false

/-- The operators that ask for a difference.  For them the law runs the other
way: what differs in lowercase differs as it is written, and not conversely. -/
def Operator.asksDifference : Operator → Bool
  | notEquals | notContains => true
  | _ => false

/-- **The law**: ignoring case loses no match of an agreement, and gains none of
a difference.  `caseSensitive` is the flag as the condition has it, where absent
counts as false. -/
def KeepsMatch (f : TextField) (t : TextTest) (facts : Facts) (caseSensitive : Option Bool) :
    Prop :=
  (t.operator.asksAgreement = true → (Condition.text f t (some true)).holds facts = true →
    (Condition.text f t caseSensitive).holds facts = true) ∧
  (t.operator.asksDifference = true → (Condition.text f t caseSensitive).holds facts = true →
    (Condition.text f t (some true)).holds facts = true)

/-- The law for one text, apart from the field that it stands in: switching case
off lets more texts agree, and fewer differ. -/
def TextTest.Keeps (raw : String) (t : TextTest) : Prop :=
  (t.operator.asksAgreement = true → t.passes true raw = true → t.passes false raw = true) ∧
  (t.operator.asksDifference = true → t.passes false raw = true → t.passes true raw = true)

/-- Facts of which one text is known.  A single condition sees no more than this
of a transaction. -/
def Facts.only (raw : String) : TextField → Facts
  | .merchant => { merchant := raw }
  | .description => { description := raw }
  | .accountType => { accountType := raw }
  | .accountName => { accountName := raw }
  | .bank => { bank := raw }
  | .currency => { currency := raw }

/-- Of these facts the one text is known. -/
theorem Facts.text?_only (raw : String) (f : TextField) :
    (Facts.only raw f).text? f = some raw := by
  cases f <;> rfl

/-- The law speaks of the text in the field, if there is one. -/
theorem keepsMatch_iff {f : TextField} {t : TextTest} {facts : Facts} {caseSensitive : Option Bool}
    (h : caseSensitive ≠ some true) :
    KeepsMatch f t facts caseSensitive ↔ ∀ raw, facts.text? f = some raw → t.Keeps raw := by
  have hflag : caseSensitive.getD false = false := by
    rcases caseSensitive with _ | _ | _
    · rfl
    · rfl
    · exact absurd rfl h
  simp only [KeepsMatch, TextTest.Keeps, Condition.holds, Option.getD_some, hflag]
  cases facts.text? f with
  | none => simp
  | some raw => simp

namespace TextTest

/-- **A test whose values are firm keeps the law.** What its values become in
lowercase is then part of what the text becomes. -/
theorem keeps_of_firmIn {raw : String} {t : TextTest} (h : t.firmIn raw = true) : t.Keeps raw := by
  cases t with
  | equals v =>
    refine ⟨fun _ hpass => ?_, nofun⟩
    have heq : raw = v := by simpa [passes] using hpass
    simp [passes, heq]
  | notEquals v =>
    refine ⟨nofun, fun _ hpass => ?_⟩
    have hne : Text.lower raw ≠ Text.lower v := by simpa [passes] using hpass
    simpa [passes] using fun heq => hne (congrArg Text.lower heq)
  | contains v => exact ⟨fun _ => Text.firm_iff_contains.1 h raw, nofun⟩
  | notContains v =>
    refine ⟨nofun, fun _ hpass => ?_⟩
    have hno : ¬ Text.contains (Text.lower raw) (Text.lower v) = true := by
      simpa [passes] using hpass
    simpa [passes] using mt (Text.firm_iff_contains.1 h raw) hno
  | startsWith v =>
    exact ⟨fun _ => Text.firm_iff_startsWith.1 h raw, nofun⟩
  | endsWith v =>
    exact ⟨fun _ => Text.firm_iff_endsWith.1 h raw, nofun⟩
  | containsAny vs =>
    refine ⟨fun _ _ => ?_, nofun⟩
    obtain ⟨v, hv, hfirm⟩ := List.any_eq_true.1 h
    rw [Bool.and_eq_true] at hfirm
    exact List.any_eq_true.2 ⟨v, hv, Text.firm_iff_contains.1 hfirm.2 raw hfirm.1⟩
  | regex pattern => exact ⟨nofun, nofun⟩

/-- **And no test with one value keeps it for every text otherwise.** The text
that breaks it is the value with one more letter next to it, which changes the
form of a sigma. -/
theorem firmIn_of_keeps {t : TextTest} (hone : ∀ vs, t ≠ .containsAny vs)
    (h : ∀ raw, t.Keeps raw) (raw : String) : t.firmIn raw = true := by
  cases t with
  | equals v => rfl
  | notEquals v => rfl
  | contains v => exact Text.firm_iff_contains.2 fun raw => (h raw).1 rfl
  | notContains v =>
    refine Text.firm_iff_contains.2 fun raw hfound => ?_
    by_contra hno
    have hpass := (h raw).2 rfl (by simpa [passes] using hno)
    simp [passes, hfound] at hpass
  | startsWith v => exact Text.firm_iff_startsWith.2 fun raw => (h raw).1 rfl
  | endsWith v => exact Text.firm_iff_endsWith.2 fun raw => (h raw).1 rfl
  | containsAny vs => exact absurd rfl (hone vs)
  | regex pattern => rfl

end TextTest

/-- **Ignoring case never loses a match of a firm value**, of whole texts in
particular.  It does so in some text for every other test with one value. -/
theorem firm_matches_outlive_case (f : TextField) (t : TextTest) :
    (∀ facts caseSensitive, caseSensitive ≠ some true →
      (∀ raw, facts.text? f = some raw → t.firmIn raw = true) →
        KeepsMatch f t facts caseSensitive) ∧
    ((∀ vs, t ≠ .containsAny vs) → (∀ facts, KeepsMatch f t facts none) →
      ∀ raw, t.firmIn raw = true) := by
  refine ⟨fun facts caseSensitive hflag hfirm => ?_, fun hone hlaw => ?_⟩
  · exact (keepsMatch_iff hflag).2 fun raw hraw => TextTest.keeps_of_firmIn (hfirm raw hraw)
  · refine TextTest.firmIn_of_keeps hone fun raw => ?_
    exact (keepsMatch_iff (Option.some_ne_none true).symm).1 (hlaw (Facts.only raw f)) raw
      (Facts.text?_only raw f)

/-- The sigma of a street name is firm with a space behind it. -/
theorem street_outlives_case :
    (∀ facts, KeepsMatch .description (.contains "ΟΔΟΣ Α") facts none) ∧
      ∀ raw, (TextTest.contains "ΟΔΟΣ Α").firmIn raw = true := by
  have hlaw : ∀ facts, KeepsMatch .description (.contains "ΟΔΟΣ Α") facts none := fun facts =>
    (firm_matches_outlive_case .description (.contains "ΟΔΟΣ Α")).1 facts none nofun
      fun _ _ => show Text.firm "ΟΔΟΣ Α" = true by decide +kernel
  exact ⟨hlaw, (firm_matches_outlive_case .description _).2 nofun hlaw⟩

/-- A name that ends in a sigma is not found any more in a longer one that
begins with it. -/
theorem sigma_lost_when_case_ignored : ¬ ∀ f t facts caseSensitive, caseSensitive ≠ some true →
    KeepsMatch f t facts caseSensitive := by
  intro hall
  have hlaw := hall .merchant (.contains "ΑΣ") { merchant := "ΑΣΑ" } none nofun
  have hfound : (Condition.text .merchant (.contains "ΑΣ") (some true)).holds
      { merchant := some "ΑΣΑ" } = true := by decide +kernel
  have hlost : (Condition.text .merchant (.contains "ΑΣ") none).holds
      { merchant := some "ΑΣΑ" } = false := by decide +kernel
  have hkept := hlaw.1 rfl hfound
  rw [hlost] at hkept
  cases hkept

end LedgerRules
