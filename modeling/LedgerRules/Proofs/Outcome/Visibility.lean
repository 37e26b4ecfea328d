/-
# What rules can see of a transaction

Rules classify a transaction by the fields that their conditions name and by
nothing else: where two transactions, each with its account, agree on these
fields, the rules propose the same for both (`rules_see_only_what_they_name`).
Of an amount they see the size alone, whatever its sign and the places it is
written with.

A field that is absent is not seen either.  A condition on it does not match, a
negated one as little as any other, so a body that matches has something to look
at: all fields of its conditions if it joins them by `and`, and one of them if
by `or` (`Conditions.has_of_holds`).
-/

import LedgerRules.Proofs.Outcome.ByValue

namespace LedgerRules

/-- A condition of an active rule is on the field.  Inactive rules do not count,
because they are not looked at. -/
def Field.NamedBy (rules : List Rule) (f : Field) : Prop :=
  ∃ r ∈ rules, r.active = true ∧ ∃ c ∈ r.conditions.items, c.field = f

/-- Two transactions, each with what is known of its account, agree on a field:
texts and directions are the same, and amounts are of the same size. -/
def Transaction.AgreeOn (t : Transaction) (account : Option AccountView) (t' : Transaction)
    (account' : Option AccountView) : Field → Prop
  | .text .merchant => t'.merchant = t.merchant
  | .text .description => t'.description = t.description
  | .text .accountType => account'.bind (·.accountType) = account.bind (·.accountType)
  | .text .accountName => account'.bind (·.name) = account.bind (·.name)
  | .text .bank => account'.bind (·.bank) = account.bind (·.bank)
  | .text .currency => t'.currency = t.currency
  | .numeric .amount => |t'.amount.value| = |t.amount.value|
  | .numeric .direction => t'.direction = t.direction

/-- What conditions see of the two then agrees on the field. -/
theorem Transaction.AgreeOn.facts {t t' : Transaction} {account account' : Option AccountView}
    {f : Field} (h : t.AgreeOn account t' account' f) :
    (t.facts account).AgreeOn (t'.facts account') f := by
  cases f with
  | text f => cases f <;> exact h
  | numeric f =>
    cases f with
    | amount =>
      refine .some ?_
      rw [Decimal.value_abs, Decimal.value_abs]
      exact h
    | direction =>
      have h : t'.direction = t.direction := h
      show Option.Rel _ (t.direction.map _) (t'.direction.map _)
      rw [h]
      cases t.direction with
      | none => exact .none
      | some n => exact .some rfl

/-- A body that matches finds its fields present, all of them or one, as its
logic asks. -/
theorem Conditions.has_of_holds {c : Conditions} {facts : Facts} (h : c.holds facts = true) :
    (c.logic = .and → ∀ x ∈ c.items, facts.Has x.field) ∧
      (c.logic = .or → ∃ x ∈ c.items, facts.Has x.field) := by
  unfold holds at h
  rw [Bool.and_eq_true] at h
  obtain ⟨-, h⟩ := h
  constructor
  · intro hlogic x hx
    rw [hlogic] at h
    exact Condition.has_of_holds (List.all_eq_true.1 h x hx)
  · intro hlogic
    rw [hlogic] at h
    obtain ⟨x, hx, hholds⟩ := List.any_eq_true.1 h
    exact ⟨x, hx, Condition.has_of_holds hholds⟩

/-- **Rules see only what they name.** Whatever else differs between two
transactions and between their accounts, rules propose the same for both, from
the same rules, if the two agree on every field that a condition of an active
rule is on; amounts only have to be of the same size.  And no body matches by
what is absent: every field that it names is present if it joins its conditions
by `and`, and one of them is if by `or`. -/
theorem rules_see_only_what_they_name :
    (∀ (rules : List Rule) (t t' : Transaction) (account account' : Option AccountView),
      (∀ f : Field, f.NamedBy rules → t.AgreeOn account t' account' f) →
        Outcome.ofRules rules (t'.facts account') = Outcome.ofRules rules (t.facts account)) ∧
    ∀ (c : Conditions) (facts : Facts), c.holds facts = true →
      (c.logic = .and → ∀ x ∈ c.items, facts.Has x.field) ∧
        (c.logic = .or → ∃ x ∈ c.items, facts.Has x.field) := by
  refine ⟨fun rules t t' account account' h => ?_, fun c facts => Conditions.has_of_holds⟩
  refine Outcome.extend_congr (fun r hr hactive c hc => ?_)
    (List.forall₂_same.2 fun r _ => .refl r) .nothing
  exact (h c.field ⟨r, hr, hactive, c, hc, rfl⟩).facts

namespace Sample

/-- A rule for small purchases from a bakery, behind one on the description that
is switched off. -/
def bakeryRules : List Rule :=
  [{ id := ⟨1#128⟩, user := "ana", name := "off", active := false, category := some 1
     conditions := ⟨.or, [.text .description (.notContains "bread") none]⟩
     createdAt := ⟨0, 0⟩, updatedAt := ⟨0, 0⟩ },
   { id := ⟨2#128⟩, user := "ana", name := "bakery", category := some 9
     conditions := ⟨.and, [.text .merchant (.contains "bakery") none,
       .numeric .amount (.lessThan (.ofInt32 5))]⟩
     createdAt := ⟨0, 0⟩, updatedAt := ⟨0, 0⟩ }]

/-- A purchase from a bakery. -/
def loaf : Transaction :=
  { id := ⟨3#128⟩, user := "ana", account := ⟨4#128⟩, amount := .ofCents (-450)
    direction := some 0, merchant := some "City Bakery", date := ⟨0⟩
    createdAt := ⟨0, 0⟩, updatedAt := ⟨0, 0⟩ }

/-- Money back from the bakery, on another account, in another currency and with
a note. -/
def loafReturned : Transaction :=
  { loaf with
    account := ⟨5#128⟩, amount := ⟨45000, 4, by decide, by decide⟩, direction := some 1
    description := some "bread", currency := some "EUR" }

end Sample

/-- A purchase and its return are classified alike by a rule on the merchant and
the amount, and both of these fields are present. -/
theorem loaf_and_return_look_alike :
    (∀ f : Field, f.NamedBy Sample.bakeryRules →
      Sample.loaf.AgreeOn none Sample.loafReturned (some ⟨some "savings", none, none⟩) f) ∧
    Outcome.ofRules Sample.bakeryRules
        (Sample.loafReturned.facts (some ⟨some "savings", none, none⟩)) =
      Outcome.ofRules Sample.bakeryRules (Sample.loaf.facts none) ∧
    (Outcome.ofRules Sample.bakeryRules (Sample.loaf.facts none)).category = some 9 ∧
    ∃ r ∈ Sample.bakeryRules, r.conditions.logic = .and ∧
      r.conditions.holds (Sample.loaf.facts none) = true ∧
      ∀ x ∈ r.conditions.items, (Sample.loaf.facts none).Has x.field := by
  have hsize : |Sample.loafReturned.amount.value| = |Sample.loaf.amount.value| := by
    rw [← Decimal.value_abs, ← Decimal.value_abs, ← Decimal.sameValue_iff]
    decide +kernel
  have hagree : ∀ f : Field, f.NamedBy Sample.bakeryRules →
      Sample.loaf.AgreeOn none Sample.loafReturned (some ⟨some "savings", none, none⟩) f := by
    rintro f ⟨r, hr, hactive, c, hc, rfl⟩
    obtain rfl | rfl : r = _ ∨ r = _ := by simpa [Sample.bakeryRules] using hr
    · cases hactive
    · obtain rfl | rfl : c = _ ∨ c = _ := by simpa using hc
      · rfl
      · exact hsize
  have hmatches : ∃ r ∈ Sample.bakeryRules, r.conditions.logic = .and ∧
      r.conditions.holds (Sample.loaf.facts none) = true := by decide +kernel
  obtain ⟨r, hr, hlogic, hholds⟩ := hmatches
  exact ⟨hagree, rules_see_only_what_they_name.1 _ _ _ _ _ hagree, by decide +kernel, r, hr, hlogic,
    hholds, (rules_see_only_what_they_name.2 _ _ hholds).1 hlogic⟩

end LedgerRules
