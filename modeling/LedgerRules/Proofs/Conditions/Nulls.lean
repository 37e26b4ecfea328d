/-
# What is null is not there, `currency` apart

A client may write a property that it does not set as null.  Every check of a
rule body but one asks whether a property is there and not null, so a body may
lose its nulls and say what it said (`nulls_do_not_count`).  The one is
`checkCurrency`: it asks whether a condition names a currency at all, and
refuses a null one.  It is only reached where the field and the operator of the
condition are known and go together, and there a null currency is all it takes.

In a list of members the first of a key counts, and a key that counts as null
goes as a whole; of an object, which names no key twice, just the null members
go (`Json.dropNulls_of_nodup`).
-/

import LedgerRules.Proofs.Conditions.Faults
import LedgerRules.Proofs.Json.Members
import Mathlib.Algebra.Order.BigOperators.Group.List

namespace LedgerRules

open Validation

/-! ### Bodies without nulls -/

namespace Json

/-- The members without those that are null, save those of the spared keys.  Of
a key that stands twice the last member counts, and all of them go if that one
is null. -/
def dropNulls (spared : List String) (members : Members) : Members :=
  members.filter fun member => member.1 ∈ spared || !(member? members member.1).any isNull

/-- An item without nulls; only an object has any. -/
def itemWithoutNulls (spared : List String) : Json → Json
  | obj members => obj (dropNulls spared members)
  | j => j

/-- A list of items without nulls.  What is no list is left as it is, because
then it has no items to look at. -/
def itemsWithoutNulls (spared : List String) : Json → Json
  | arr items => arr (items.map (itemWithoutNulls spared))
  | j => j

/-- The members of a body without nulls, and without those of its conditions
save the spared.  A null that is itself the value of `conditions` is a missing
list. -/
def bodyMembersWithoutNulls (spared : List String) (members : Members) : Members :=
  (dropNulls [] members).map fun (key, j) =>
    (key, if key = "conditions" then itemsWithoutNulls spared j else j)

/-- A body without nulls, and without those of its conditions save the spared.
Whether a null property counts as one that is not there is asked by judging a
body with and without them. -/
def bodyWithoutNulls (spared : List String) : Json → Json
  | obj members => obj (bodyMembersWithoutNulls spared members)
  | j => j

/-- Of an object that names no key twice the null members go. -/
theorem dropNulls_of_nodup {members : Members} (h : (members.map Prod.fst).Nodup) :
    dropNulls [] members = members.filter fun member => !member.2.isNull := by
  refine List.filter_congr fun member hmem => ?_
  rw [member?_of_mem h hmem]
  simp

end Json

/-- The field and the operator are known and go together.  Only then is anything
else of a condition looked at, a currency included. -/
def Grammar.Headed (members : Members) : Prop :=
  ∃ (f : Field) (op : Operator), IsText members "field" f.name ∧
    IsText members "operator" op.name ∧ op.appliesTo f.family = true

/-- A condition that names a currency, which is null, and is right so far. -/
def Grammar.NullCurrency (j : Json) : Prop :=
  ∃ members, j = .obj members ∧ Headed members ∧
    Json.member? members "currency" = some .null

namespace Validation

variable {a b members : Members} {spared : List String}

/-- What is present is what is there and not null. -/
theorem present?_eq_filter (members : Members) (key : String) :
    present? members key = (Json.member? members key).filter (!·.isNull) := by
  unfold present?
  cases Json.member? members key with
  | none => rfl
  | some j => cases j <;> rfl

/-- **Of members without nulls** those that are there are left, and the spared.
The validator looks at members only in this way, one by one. -/
theorem member?_dropNulls (spared : List String) (members : Members) (key : String) :
    Json.member? (Json.dropNulls spared members) key =
      if key ∈ spared then Json.member? members key else present? members key := by
  unfold Json.dropNulls
  rw [Json.member?_filter members fun k => k ∈ spared || !(Json.member? members k).any Json.isNull,
    present?_eq_filter]
  cases Json.member? members key with
  | none => simp
  | some j =>
    by_cases hs : key ∈ spared <;> cases hj : j.isNull <;> simp [hs, hj, Option.filter_some]

/-- What is there stays there: to a check that takes null for absent both
objects look alike. -/
theorem present?_dropNulls (spared : List String) (members : Members) :
    present? (Json.dropNulls spared members) = present? members := by
  funext key
  rw [present?_eq_filter, member?_dropNulls]
  split
  · exact (present?_eq_filter members key).symm
  · rw [present?_eq_filter, Option.filter_filter]
    simp only [Bool.and_self]

/-! ### Checks that ask what is there -/

/-- A field is read from members exactly where they name it. -/
theorem checkField_value {f : Field} :
    (checkField members).value = some f ↔ Grammar.IsText members "field" f.name := by
  rw [← checkField_passes]
  rcases checkField_ok_or_fail members with ⟨g, hg⟩ | ⟨part, cause, hg⟩ <;>
  · rw [hg]
    simp [Checked.ok, Checked.fail]

/-- An operator is read from members exactly where they name it. -/
theorem checkOperator_value {op : Operator} :
    (checkOperator members).value = some op ↔ Grammar.IsText members "operator" op.name := by
  rw [← checkOperator_passes]
  rcases checkOperator_ok_or_fail members with ⟨g, hg⟩ | ⟨part, cause, hg⟩ <;>
  · rw [hg]
    simp [Checked.ok, Checked.fail]

/-- The field and the operator are known and go together exactly where the
checks read them so; only then the rest of a condition is looked at. -/
theorem headed_iff : Grammar.Headed members ↔ ∃ f op, (checkField members).value = some f ∧
    (checkOperator members).value = some op ∧ op.appliesTo f.family = true := by
  simp only [checkField_value, checkOperator_value]
  exact Iff.rfl

section Alike

variable (h : present? a = present? b)
include h

/-- The check of the field sees only what is present. -/
theorem checkField_congr : checkField a = checkField b := by
  unfold checkField
  rw [h]

/-- The check of the operator sees only what is present. -/
theorem checkOperator_congr : checkOperator a = checkOperator b := by
  unfold checkOperator
  rw [h]

/-- The checks of a text test see only what is present. -/
theorem checkTextTest_congr (op : Operator) : checkTextTest op a = checkTextTest op b := by
  unfold checkTextTest checkTextValues checkTextValue
  rw [h]

/-- The check of the case flag sees only what is present. -/
theorem checkCase_congr : checkCase a = checkCase b := by
  unfold checkCase
  rw [h]

/-- The check of two bounds sees only what is present. -/
theorem checkBounds_congr : checkBounds a = checkBounds b := by
  unfold checkBounds checkNumber
  rw [h]

/-- The check of a single number sees only what is present. -/
theorem checkSingle_congr (op : Operator) : checkSingle op a = checkSingle op b := by
  unfold checkSingle checkNumber
  rw [h]

/-- Where field and operator go together, all but the check for a currency sees
only what is there. -/
theorem checkBody_alike {f : Field} {op : Operator} (happ : op.appliesTo f.family = true) :
    ∃ before after value,
      checkBody f op a = ⟨before ++ checkCurrency a ++ after, value⟩ ∧
        checkBody f op b = ⟨before ++ checkCurrency b ++ after, value⟩ := by
  unfold checkBody
  rw [if_pos happ, if_pos happ]
  cases f with
  | text f =>
    unfold checkText
    rw [checkTextTest_congr h, checkCase_congr h]
    exact ⟨_, _, _, rfl, rfl⟩
  | numeric f =>
    unfold checkNumeric
    rw [checkBounds_congr h, checkSingle_congr h, h]
    exact ⟨_, _, _, rfl, rfl⟩

/-- Members whose field and operator are known and go together are looked at
further, but only for what is there and for a currency; all others only for what
is there. -/
theorem checkMembers_alike :
    (Grammar.Headed b ∧ ∃ before after value,
      checkMembers a = ⟨before ++ checkCurrency a ++ after, value⟩ ∧
        checkMembers b = ⟨before ++ checkCurrency b ++ after, value⟩) ∨
    (¬Grammar.Headed b ∧ checkMembers a = checkMembers b) := by
  unfold checkMembers
  rw [checkField_congr h, checkOperator_congr h]
  dsimp only
  simp only [headed_iff]
  cases (checkField b).value with
  | none => exact .inr ⟨by simp, rfl⟩
  | some f =>
    cases (checkOperator b).value with
    | none => exact .inr ⟨by simp, rfl⟩
    | some op =>
      by_cases happ : op.appliesTo f.family = true
      · exact .inl ⟨⟨f, op, rfl, rfl, happ⟩, checkBody_alike h happ⟩
      · refine .inr ⟨by simp [happ], ?_⟩
        change checkBody f op a = checkBody f op b
        unfold checkBody
        rw [if_neg happ, if_neg happ]

end Alike

/-! ### Items without nulls -/

/-- Objects whose members are checked alike are items that are checked alike. -/
theorem checkItem_obj_congr (h : checkMembers a = checkMembers b) :
    checkItem (.obj a) = checkItem (.obj b) := by
  unfold checkItem
  dsimp only
  rw [h]

/-- An object has the defects of its members. -/
theorem defects_checkItem (members : Members) :
    (checkItem (.obj members)).defects = (checkMembers members).defects := by
  unfold checkItem
  dsimp only
  split <;> rfl

/-- An item may lose its nulls if it keeps what it says of a currency. -/
theorem checkItem_withoutNulls_of_mem (h : "currency" ∈ spared) (j : Json) :
    checkItem (j.itemWithoutNulls spared) = checkItem j := by
  cases j with
  | obj members =>
    have hcur : checkCurrency (Json.dropNulls spared members) = checkCurrency members := by
      unfold checkCurrency
      rw [member?_dropNulls, if_pos h]
    refine checkItem_obj_congr ?_
    rcases checkMembers_alike (present?_dropNulls spared members) with ⟨-, before, after, value, ha,
      hb⟩ | ⟨-, heq⟩
    · rw [ha, hb, hcur]
    · exact heq
  | _ => rfl

/-- An item that names no currency may lose all its nulls, and so may one that
is not looked at so far. -/
theorem checkItem_withoutNulls {j : Json} (h : ¬Grammar.NullCurrency j) :
    checkItem (j.itemWithoutNulls []) = checkItem j := by
  cases j with
  | obj members =>
    refine checkItem_obj_congr ?_
    rcases checkMembers_alike (present?_dropNulls [] members) with ⟨hhead, before, after, value, ha,
      hb⟩ | ⟨-, heq⟩
    · have hcur : checkCurrency (Json.dropNulls [] members) = checkCurrency members := by
        unfold checkCurrency
        rw [member?_dropNulls, if_neg List.not_mem_nil, present?]
        split
        · rename_i hnull
          exact absurd ⟨members, rfl, hhead, hnull⟩ h
        · rfl
      rw [ha, hb, hcur]
    · exact heq
  | _ => rfl

/-- **A null currency is refused**, and nothing else is found wrong for it.  The
fault stands among the others as one of a currency that is given would. -/
theorem defects_of_nullCurrency {j : Json} (h : Grammar.NullCurrency j) :
    ∃ before after,
      (checkItem j).defects = before ++ ⟨.property "currency", .currencyModifier⟩ :: after ∧
        (checkItem (j.itemWithoutNulls [])).defects = before ++ after := by
  obtain ⟨members, rfl, hhead, hnull⟩ := h
  rcases checkMembers_alike (present?_dropNulls [] members) with ⟨-, before, after, value, ha,
    hb⟩ | ⟨hno, -⟩
  · refine ⟨before, after, ?_, ?_⟩
    · rw [defects_checkItem, hb, checkCurrency, hnull]
      exact List.append_assoc ..
    · have hnone : present? members "currency" = none := present?_eq_none.2 (.inr hnull)
      change (checkItem (.obj (Json.dropNulls [] members))).defects = _
      rw [defects_checkItem, ha, checkCurrency, member?_dropNulls, if_neg List.not_mem_nil, hnone]
      exact congrArg (· ++ after) (List.append_nil before)
  · exact absurd hhead hno

/-! ### Bodies without nulls -/

/-- What stands under a key without nulls is what is present there, and the list
of conditions with its items changed. -/
theorem member?_bodyMembersWithoutNulls (spared : List String) (members : Members) (key : String) :
    Json.member? (Json.bodyMembersWithoutNulls spared members) key =
      (present? members key).map fun j =>
        if key = "conditions" then j.itemsWithoutNulls spared else j := by
  unfold Json.bodyMembersWithoutNulls
  rw [Json.member?_map _ fun key j => if key = "conditions" then j.itemsWithoutNulls spared else j,
    member?_dropNulls, if_neg List.not_mem_nil]

/-- A null logic is a missing one, so the logic is checked alike. -/
theorem checkLogic_withoutNulls (spared : List String) (members : Members) :
    checkLogic (Json.bodyMembersWithoutNulls spared members) = checkLogic members := by
  have h : present? (Json.bodyMembersWithoutNulls spared members) "logic" =
      present? members "logic" := by
    rw [present?_eq_filter, member?_bodyMembersWithoutNulls, present?_eq_filter members]
    simp [Option.filter_filter]
  unfold checkLogic
  rw [h]

/-- The list of conditions stays a list of as many items. -/
theorem member?_conditions_withoutNulls {items : List Json}
    (h : Json.member? members "conditions" = some (.arr items)) :
    Json.member? (Json.bodyMembersWithoutNulls spared members) "conditions" =
      some (.arr (items.map (·.itemWithoutNulls spared))) := by
  rw [member?_bodyMembersWithoutNulls, present?_eq_some.2 ⟨h, nofun⟩]
  rfl

/-- Items that are changed without a difference to their checks have the same
faults, in the same places. -/
theorem itemFaults_map {f : Json → Json} {items : List Json}
    (h : ∀ j ∈ items, checkItem (f j) = checkItem j) (index : Nat) :
    itemFaults index (items.map f) = itemFaults index items := by
  induction items generalizing index with
  | nil => rfl
  | cons j rest ih =>
    obtain ⟨hj, hrest⟩ := List.forall_mem_cons.1 h
    rw [List.map_cons, itemFaults, itemFaults, hj, ih hrest]

/-- Items have as many faults as they have defects, one after the other. -/
theorem length_itemFaults (index : Nat) (items : List Json) :
    (itemFaults index items).length = (items.map fun j => (checkItem j).defects.length).sum := by
  induction items generalizing index with
  | nil => rfl
  | cons j rest ih =>
    rw [itemFaults, List.length_append, List.length_map, ih, List.map_cons, List.sum_cons]

/-- Where there is no list with an item in it there is one fault, at
`conditions`. -/
theorem checkItems_of_forall_ne
    (h : ∀ items, items ≠ [] → Json.member? members "conditions" ≠ some (.arr items)) :
    checkItems members = ([⟨.conditions, .noConditions⟩], []) := by
  unfold checkItems
  split
  · rfl
  · rename_i items hne heq
    exact absurd heq (h items hne)
  · rfl

/-- Items that are checked alike with and without their nulls are read alike in
their body. -/
theorem checkItems_withoutNulls
    (h : ∀ items, Json.member? members "conditions" = some (.arr items) →
      ∀ j ∈ items, checkItem (j.itemWithoutNulls spared) = checkItem j) :
    checkItems (Json.bodyMembersWithoutNulls spared members) = checkItems members := by
  by_cases harr : ∃ items, items ≠ [] ∧ Json.member? members "conditions" = some (.arr items)
  · obtain ⟨items, hne, hitems⟩ := harr
    have hmap : items.map (·.itemWithoutNulls spared) ≠ [] := fun h0 =>
      hne (List.map_eq_nil_iff.1 h0)
    rw [checkItems_of_ne_nil (member?_conditions_withoutNulls hitems) hmap,
      checkItems_of_ne_nil hitems hne, itemFaults_map (h items hitems), List.filterMap_map]
    exact congrArg _ (List.filterMap_congr fun j hj => congrArg Checked.value (h items hitems j hj))
  · have hno : ∀ items, items ≠ [] → Json.member? members "conditions" ≠ some (.arr items) :=
      fun items hne heq => harr ⟨items, hne, heq⟩
    rw [checkItems_of_forall_ne hno, checkItems_of_forall_ne]
    intro items hne heq
    rw [member?_bodyMembersWithoutNulls, Option.map_eq_some_iff] at heq
    obtain ⟨j, hj, hitems⟩ := heq
    rw [if_pos rfl] at hitems
    cases j with
    | arr items' =>
      refine hno items' ?_ (present?_eq_some.1 hj).1
      rintro rfl
      exact hne (Json.arr.inj hitems).symm
    | _ => cases hitems

/-- A body with a null currency has one fault more than without its nulls, at
least. -/
theorem length_faults_withoutNulls {items : List Json}
    (hitems : Json.member? members "conditions" = some (.arr items)) {j : Json} (hj : j ∈ items)
    (hnull : Grammar.NullCurrency j) :
    (Conditions.validate (.obj (Json.bodyMembersWithoutNulls [] members))).faults.length <
      (Conditions.validate (.obj members)).faults.length := by
  have hless : ∀ j, Grammar.NullCurrency j →
      (checkItem (j.itemWithoutNulls [])).defects.length < (checkItem j).defects.length := by
    intro j h
    obtain ⟨before, after, hwith, hwithout⟩ := defects_of_nullCurrency h
    rw [hwith, hwithout]
    simp
  have hle : ∀ j, (checkItem (j.itemWithoutNulls [])).defects.length ≤
      (checkItem j).defects.length := by
    intro j
    by_cases h : Grammar.NullCurrency j
    · exact (hless j h).le
    · rw [checkItem_withoutNulls h]
  have hne : items ≠ [] := List.ne_nil_of_mem hj
  have hmap : items.map (·.itemWithoutNulls []) ≠ [] := fun h0 => hne (List.map_eq_nil_iff.1 h0)
  rw [faults_validate, faults_validate, checkLogic_withoutNulls, checkItems_of_ne_nil hitems hne,
    checkItems_of_ne_nil (member?_conditions_withoutNulls hitems) hmap, List.length_append,
    List.length_append, length_itemFaults, length_itemFaults, List.map_map]
  exact Nat.add_lt_add_left
    (List.sum_lt_sum _ _ (fun j _ => hle j) ⟨j, hj, hless j hnull⟩) _

end Validation

/-- **What is null is not there, `currency` apart.** A body that loses its
nulls, and each of its conditions those it has, all but a null `currency`, is
accepted as before or has the same faults.  Where these go too the verdict stays
if and only if no condition names a null currency beside a field and an operator
that are known and go together; such a condition is refused, and for the
currency alone where it is all right otherwise. -/
theorem nulls_do_not_count (body : Json) :
    Conditions.validate (body.bodyWithoutNulls ["currency"]) = Conditions.validate body ∧
      (Conditions.validate (body.bodyWithoutNulls []) = Conditions.validate body ↔
        ∀ items, body.get? "conditions" = some (.arr items) →
          ∀ j ∈ items, ¬Grammar.NullCurrency j) ∧
      ∀ j, Grammar.NullCurrency j → ∃ before after,
        (checkItem j).defects = before ++ ⟨.property "currency", .currencyModifier⟩ :: after ∧
          (checkItem (j.itemWithoutNulls [])).defects = before ++ after := by
  have hsame : ∀ {members spared}, (∀ items, Json.member? members "conditions" = some (.arr items) →
      ∀ j ∈ items, checkItem (j.itemWithoutNulls spared) = checkItem j) →
        Conditions.validate (.obj (Json.bodyMembersWithoutNulls spared members)) =
          Conditions.validate (.obj members) := fun h => by
    unfold Conditions.validate
    dsimp only
    rw [checkLogic_withoutNulls, checkItems_withoutNulls h]
  refine ⟨?_, ?_, fun j => defects_of_nullCurrency⟩
  · cases body with
    | obj members => exact hsame fun _ _ j _ => checkItem_withoutNulls_of_mem (by decide) j
    | _ => rfl
  · cases body with
    | obj members =>
      refine ⟨fun heq items hitems j hj hnull => ?_, fun h => ?_⟩
      · have hlt := length_faults_withoutNulls hitems hj hnull
        exact hlt.ne (congrArg (fun v => v.faults.length) heq)
      · exact hsame fun items hitems j hj => checkItem_withoutNulls (h items hitems j hj)
    | _ => exact ⟨fun _ _ h => (nomatch h), fun _ => rfl⟩

namespace Sample

/-- A body whose writer leaves no property out, and writes those that are not
set as null. -/
def withUnset : Json :=
  .obj [("logic", .str "AND"), ("note", .null), ("conditions", .arr [.obj
    [("field", .str "merchant"), ("operator", .str "contains"), ("value", .str "Bakery"),
      ("values", .null), ("case_sensitive", .null), ("currency", .null)]])]

end Sample

/-- A body is refused for a currency that is not set, and accepted without its
nulls. -/
theorem unset_currency_is_refused :
    (Conditions.validate Sample.withUnset).text =
        "conditions[0].currency: currency is not a condition modifier; use the currency field " ++
          "instead (INVALID_FIELD_FOR_TYPE)" ∧
      (Conditions.validate (Sample.withUnset.bodyWithoutNulls [])).conditions? =
        some ⟨.and, [.text .merchant (.contains "bakery") (some false)]⟩ ∧
      Conditions.validate (Sample.withUnset.bodyWithoutNulls ["currency"]) =
        Conditions.validate Sample.withUnset ∧
      Conditions.validate (Sample.withUnset.bodyWithoutNulls []) ≠
        Conditions.validate Sample.withUnset := by
  obtain ⟨hspared, hall, -⟩ := nulls_do_not_count Sample.withUnset
  refine ⟨by decide +kernel, by decide +kernel, hspared, fun heq => ?_⟩
  refine hall.1 heq _ rfl _ List.mem_cons_self ⟨_, rfl, ?_, rfl⟩
  exact ⟨.text .merchant, .contains, rfl, rfl, rfl⟩

end LedgerRules
