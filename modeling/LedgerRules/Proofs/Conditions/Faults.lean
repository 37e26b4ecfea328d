/-
# The faults of a body add up

A body is checked to its end: the faults of its logic come first, then those of
its conditions in the order of the document.  What is wrong with a condition
depends neither on the logic nor on the other conditions, and where it stands
shows only in the path.  So the faults of any body are put together from bodies
of one condition (`Conditions.faults_ruleBody`), and what two lists of
conditions say they say together (`Conditions.validate_append`).
-/

import LedgerRules.Proofs.Conditions.Acceptance

namespace LedgerRules

open Validation

/-! ### Bodies -/

/-- The members of a body with a logic, or without one, and a list of items.
What other members a body has does not matter to the validator. -/
def Json.ruleMembers (logic : Option Json) (items : List Json) : Members :=
  (logic.map ("logic", ·)).toList ++ [("conditions", .arr items)]

/-- A body with a logic, or without one, and a list of items.  Faults of such
bodies add up item by item. -/
def Json.ruleBody (logic : Option Json) (items : List Json) : Json :=
  .obj (ruleMembers logic items)

/-- A value that names a logic.  The letters may be of either case, as the body
is read. -/
def Json.IsLogic (j : Json) : Prop := ∃ s, j = .str s ∧ (Logic.ofName? s).isSome = true

/-- What is wrong with the logic of a body.  It does not depend on the
conditions, and it comes before their faults in a report. -/
def Conditions.logicFaults (logic : Option Json) : List Fault :=
  (checkLogic (logic.map ("logic", ·)).toList).1

namespace Json

variable {logic : Option Json} {items : List Json}

/-- The logic of such a body is the one it was made with. -/
theorem member?_logic : member? (ruleMembers logic items) "logic" = logic := by
  cases logic <;> rfl

/-- Its conditions are the items it was made with. -/
theorem member?_conditions : member? (ruleMembers logic items) "conditions" =
    some (.arr items) := by
  cases logic <;> rfl

end Json

/-! ### Places -/

/-- The end of the path of a part of a condition, as in
`conditions[0].values[2]`.  It does not change when conditions are put in front
of the condition. -/
def Part.path : Part → String
  | whole => ""
  | property name => s!".{name}"
  | entry name i => s!".{name}[{i}]"

/-- The path of a place in a condition is that of the condition and that of the
part. -/
theorem Place.path_item (index : Nat) (part : Part) :
    (Place.item index part).path = s!"conditions[{index}]" ++ part.path := by
  have hjoin : ∀ rest : String,
      toString "]." ++ rest = toString "]" ++ (toString "." ++ rest) := fun rest => by
    rw [← String.append_assoc]
    rfl
  cases part with
  | whole => exact String.append_empty.symm
  | property name =>
    change s!"conditions[{index}].{name}" = s!"conditions[{index}]" ++ s!".{name}"
    simp only [String.append_assoc, hjoin]
  | entry name i =>
    change s!"conditions[{index}].{name}[{i}]" = s!"conditions[{index}]" ++ s!".{name}[{i}]"
    simp only [String.append_assoc, hjoin]

/-- A fault of a condition, as one of the condition at an index.  Only the place
changes; what is wrong stays what it was. -/
def Fault.movedTo (index : Nat) (f : Fault) : Fault :=
  match f.place with
  | .item _ part => ⟨.item index part, f.cause⟩
  | _ => f

/-! ### Checks of a list -/

namespace Validation

variable {members : Members}

/-- What is wrong with items is what is wrong with each, in their order. -/
theorem itemFaults_eq (index : Nat) (items : List Json) : itemFaults index items =
    (items.zipIdx index).flatMap fun (j, i) => (checkItem j).defects.map (·.inItem i) := by
  induction items generalizing index with
  | nil => rfl
  | cons j rest ih => rw [itemFaults, ih, List.zipIdx_cons, List.flatMap_cons]

/-- Only the logic matters to its check. -/
theorem checkLogic_congr {members' : Members}
    (h : Json.member? members "logic" = Json.member? members' "logic") :
    checkLogic members = checkLogic members' := by
  unfold checkLogic present?
  rw [h]

/-- A list of conditions that is not empty is checked item by item. -/
theorem checkItems_of_ne_nil {items : List Json}
    (h : Json.member? members "conditions" = some (.arr items)) (hne : items ≠ []) :
    checkItems members = (itemFaults 0 items, items.filterMap fun j => (checkItem j).value) := by
  unfold checkItems
  rw [h]
  cases items with
  | nil => exact absurd rfl hne
  | cons j rest => rfl

/-- The faults of a body are those of its logic and those of its conditions. -/
theorem faults_validate (members : Members) : (Conditions.validate (.obj members)).faults =
    (checkLogic members).1 ++ (checkItems members).1 := by
  unfold Conditions.validate
  dsimp only
  rcases checkLogic_ok_or_fail members with ⟨l, hl⟩ | ⟨f, hl⟩
  · rw [hl]
    cases (checkItems members).1 <;> rfl
  · rw [hl]
    rfl

/-- An item that is not read has a fault, and one with a fault is not read. -/
theorem checkItem_value_eq_none {j : Json} :
    (checkItem j).value = none ↔ (checkItem j).defects ≠ [] := by
  constructor
  · intro h hd
    obtain ⟨c, hc⟩ := checkItem_sound j hd
    rw [h] at hc
    cases hc
  · intro h
    unfold checkItem at h ⊢
    cases j with
    | obj members =>
      dsimp only at h ⊢
      split
      · rename_i hempty
        rw [if_pos hempty] at h
        exact absurd (List.isEmpty_iff.1 hempty) h
      · rfl
    | _ => rfl

end Validation

namespace Conditions

variable {logic : Option Json} {good : Json} {items : List Json}

/-- **The faults of a body** are those of its logic and then those of its
items.  A list without items is left out here: it has a fault of its own. -/
theorem faults_ruleBody (hne : items ≠ []) :
    (validate (.ruleBody logic items)).faults = logicFaults logic ++ itemFaults 0 items := by
  have hlogic : Json.member? (Json.ruleMembers logic items) "logic" =
      Json.member? (logic.map ("logic", ·)).toList "logic" := by
    rw [Json.member?_logic]
    cases logic <;> rfl
  unfold Json.ruleBody logicFaults
  rw [faults_validate, checkLogic_congr hlogic, checkItems_of_ne_nil Json.member?_conditions hne]

/-- Nothing is wrong with a value that names a logic; for any other there is one
fault. -/
theorem logicFaults_cases (logic : Option Json) :
    (logicFaults logic = [] ∧ ∃ j, logic = some j ∧ j.IsLogic) ∨
      (∃ cause, logicFaults logic = [⟨.logic, cause⟩]) ∧ ¬∃ j, logic = some j ∧ j.IsLogic := by
  unfold logicFaults checkLogic present? Json.IsLogic
  cases logic with
  | none => exact .inr ⟨⟨_, rfl⟩, by simp⟩
  | some j =>
    cases j with
    | str s =>
      simp only [Option.map_some, Option.toList_some, Json.member?, List.lookup_cons_self]
      cases h : Logic.ofName? s with
      | none => exact .inr ⟨⟨_, rfl⟩, by simp [h]⟩
      | some l => exact .inl ⟨rfl, by simp [h]⟩
    | _ => exact .inr ⟨⟨_, rfl⟩, by simp⟩

/-- Nothing is wrong with a value that names a logic. -/
theorem logicFaults_of_isLogic (h : good.IsLogic) : logicFaults (some good) = [] := by
  rcases logicFaults_cases (some good) with ⟨h0, -⟩ | ⟨-, hno⟩
  · exact h0
  · exact absurd ⟨good, rfl, h⟩ hno

/-- What is wrong with an item that is the only one. -/
theorem faults_alone (h : good.IsLogic) (j : Json) :
    (validate (.ruleBody (some good) [j])).faults = (checkItem j).defects.map (·.inItem 0) := by
  rw [faults_ruleBody (List.cons_ne_nil _ _), logicFaults_of_isLogic h, itemFaults, itemFaults,
    List.append_nil, List.nil_append]

/-- What is wrong with items is what is wrong with each when it is the only one,
so a condition is judged without looking at the others. -/
theorem itemFaults_eq_alone (h : good.IsLogic) (items : List Json) : itemFaults 0 items =
    items.zipIdx.flatMap fun (j, i) =>
      (validate (.ruleBody (some good) [j])).faults.map (·.movedTo i) := by
  rw [itemFaults_eq]
  refine congrArg (List.flatMap · _) (funext fun (j, i) => ?_)
  dsimp only
  rw [faults_alone h, List.map_map]
  rfl

/-- Where a fault of an only item stands, and where it stands in a longer body. -/
theorem path_of_mem_faults_alone (h : good.IsLogic) {j : Json} {f : Fault}
    (hf : f ∈ (validate (.ruleBody (some good) [j])).faults) (i : Nat) :
    ∃ rest, f.place.path = "conditions[0]" ++ rest ∧
      (f.movedTo i).place.path = s!"conditions[{i}]" ++ rest ∧ (f.movedTo i).cause = f.cause := by
  rw [faults_alone h] at hf
  obtain ⟨d, -, rfl⟩ := List.mem_map.1 hf
  exact ⟨d.part.path, Place.path_item 0 d.part, Place.path_item i d.part, rfl⟩

/-- A body is in the grammar if its logic is and its items are. -/
theorem body_ruleBody_iff {c : Conditions} : Grammar.Body (.ruleBody logic items) c ↔
    (∃ s, logic = some (.str s) ∧ Text.asciiCaseEq s c.logic.name = true) ∧ items ≠ [] ∧
      List.Forall₂ Grammar.Item items c.items := by
  unfold Grammar.Body Grammar.IsText Json.ruleBody
  simp only [Json.obj.injEq, exists_eq_left', Json.member?_logic, Json.member?_conditions,
    Option.some.injEq, Json.arr.injEq]

/-- **Two accepted lists of items are accepted together**, as what they say one
after the other.  No condition looks at another one. -/
theorem validate_append {xs ys : List Json} {a b : Conditions}
    (hx : validate (.ruleBody logic xs) = .accepted a)
    (hy : validate (.ruleBody logic ys) = .accepted b) :
    validate (.ruleBody logic (xs ++ ys)) = .accepted ⟨a.logic, a.items ++ b.items⟩ := by
  obtain ⟨c, hc, rfl⟩ := validate_eq_accepted_iff.1 hx
  obtain ⟨d, hd, rfl⟩ := validate_eq_accepted_iff.1 hy
  obtain ⟨hlogic, hne, hxs⟩ := body_ruleBody_iff.1 hc
  obtain ⟨-, -, hys⟩ := body_ruleBody_iff.1 hd
  refine validate_eq_accepted_iff.2 ⟨⟨c.logic, c.items ++ d.items⟩, ?_, ?_⟩
  · exact body_ruleBody_iff.2 ⟨hlogic, List.append_ne_nil_of_left_ne_nil hne ys,
      List.rel_append hxs hys⟩
  · unfold normalize
    rw [List.map_append]

end Conditions

/-- **Faults add up in the order of the document.** What is wrong with a body is
what is wrong with its logic, one fault at most, and then what is wrong with its
items, one after the other.  What is wrong with an item is what is wrong with it
as the only one of a body with any good logic, the path apart, which names its
own index.  There is something wrong with an item exactly where it is not read
as a condition; and lists of items that are accepted apart are accepted
together, with the conditions of the one behind those of the other. -/
theorem faults_add_up {logic : Option Json} {xs ys : List Json} {good : Json}
    (hne : xs ++ ys ≠ []) (hgood : good.IsLogic) :
    (Conditions.validate (.ruleBody logic (xs ++ ys))).faults = Conditions.logicFaults logic ++
        (xs ++ ys).zipIdx.flatMap (fun (j, i) =>
          (Conditions.validate (.ruleBody (some good) [j])).faults.map (·.movedTo i)) ∧
      ((Conditions.logicFaults logic = [] ∧ ∃ j, logic = some j ∧ j.IsLogic) ∨
        (∃ cause, Conditions.logicFaults logic = [⟨.logic, cause⟩]) ∧
          ¬∃ j, logic = some j ∧ j.IsLogic) ∧
      (∀ j, ∀ f ∈ (Conditions.validate (.ruleBody (some good) [j])).faults, ∀ i : Nat, ∃ rest,
        f.place.path = "conditions[0]" ++ rest ∧
          (f.movedTo i).place.path = s!"conditions[{i}]" ++ rest ∧ (f.movedTo i).cause = f.cause) ∧
      (∀ j, (Conditions.validate (.ruleBody (some good) [j])).faults ≠ [] ↔
        (checkItem j).value = none) ∧
      ∀ a b, Conditions.validate (.ruleBody logic xs) = .accepted a →
        Conditions.validate (.ruleBody logic ys) = .accepted b →
          Conditions.validate (.ruleBody logic (xs ++ ys)) =
            .accepted ⟨a.logic, a.items ++ b.items⟩ := by
  refine ⟨?_, Conditions.logicFaults_cases logic,
    fun j f hf => Conditions.path_of_mem_faults_alone hgood hf, fun j => ?_,
    fun a b => Conditions.validate_append⟩
  · rw [Conditions.faults_ruleBody hne, Conditions.itemFaults_eq_alone hgood]
  · rw [Conditions.faults_alone hgood, ne_eq, List.map_eq_nil_iff, checkItem_value_eq_none]

namespace Sample

/-- A condition on the merchant that is all right. -/
def atShell : Json :=
  .obj [("field", .str "merchant"), ("operator", .str "equals"), ("value", .str "Shell")]

/-- A condition on the amount that is all right. -/
def overFive : Json :=
  .obj [("field", .str "amount"), ("operator", .str "greater_than"), ("value", .num (.whole 5))]

/-- A condition that asks for a direction past the last code. -/
def anyWay : Json :=
  .obj [("field", .str "direction"), ("operator", .str "between"), ("min_value", .num (.whole 0)),
    ("max_value", .num (.whole 5))]

end Sample

/-- An unknown logic, a condition that is all right and two that are not; and
two good conditions that are accepted together. -/
theorem faults_of_mixed_body :
    ([Sample.atShell] ++ [Sample.anyWay, .str "not a condition"] ≠ [] ∧ (Json.str "or").IsLogic) ∧
      (Conditions.validate (.ruleBody (some (.str "NOR"))
        ([Sample.atShell] ++ [Sample.anyWay, .str "not a condition"]))).faults.map
          (fun f => (f.place.path, f.code)) =
        [("logic", .invalidValue), ("conditions[1].max_value", .invalidValue),
          ("conditions[2]", .invalidValue)] ∧
      Conditions.validate (.ruleBody (some (.str "or")) ([Sample.atShell] ++ [Sample.overFive])) =
        .accepted ⟨.or, [.text .merchant (.equals "shell") (some false),
          .numeric .amount (.greaterThan ⟨5, 0, by decide, by decide⟩)]⟩ := by
  have hgood : (Json.str "or").IsLogic := ⟨"or", rfl, by decide⟩
  have hne : [Sample.atShell] ++ [Sample.anyWay, .str "not a condition"] ≠ [] := nofun
  have hpair : [Sample.atShell] ++ [Sample.overFive] ≠ [] := nofun
  refine ⟨⟨hne, hgood⟩, ?_, ?_⟩
  · rw [(@faults_add_up (some (.str "NOR")) _ _ _ hne hgood).1]
    decide +kernel
  · obtain ⟨-, -, -, -, htogether⟩ := @faults_add_up (some (.str "or")) _ _ _ hpair hgood
    refine htogether ⟨.or, [.text .merchant (.equals "shell") (some false)]⟩
      ⟨.or, [.numeric .amount (.greaterThan ⟨5, 0, by decide, by decide⟩)]⟩ ?_ ?_ <;>
    decide +kernel

end LedgerRules
