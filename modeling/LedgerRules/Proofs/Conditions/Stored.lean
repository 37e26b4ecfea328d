/-
# A rule body that is stored as text

The text of a body is the compact form of its written form.  In a body with
whole numbers of 64 bits every number is written as such a number, so the reader
gives the written form back, and the body that is validated from it is the one
that was stored, numbers compared by value (`validateText_compact`).  Whatever
its numbers, what has the same value is stored as the same text
(`toJson_congr`), so a body that is read again once may be read and stored again
any number of times.
-/

import LedgerRules.Proofs.Conditions.WireForm
import LedgerRules.Proofs.Json.Members
import LedgerRules.Proofs.Json.Reread
import LedgerRules.Proofs.Number.Nearest

namespace LedgerRules

namespace Json

/-- A settled value is read from its text as it was. -/
theorem Plain.read?_compact {depth : Nat} {j : Json} (h : Plain depth j) (hd : depth ≤ maxDepth)
    (hs : settle j = j) : read? (compact j) = some j := by
  unfold read?
  rw [h.readRaw?_compact hd, Option.map_some, hs]

end Json

/-! ### Bodies -/

/-- The numbers of the body are whole ones of 64 bits with sign, the ones that
every text of a number gives back. -/
def Conditions.FitsCell (c : Conditions) : Prop :=
  ∀ d ∈ c.numbers, ∃ n, d.whole? = some n ∧ Number.fitsSigned n = true

namespace Condition

/-- A whole number of 64 bits with sign is written as one. -/
theorem numberJson_eq {d : Decimal} {n : Int} (h : d.whole? = some n)
    (hn : Number.fitsSigned n = true) : numberJson d = .num (.whole n) := by
  unfold numberJson Number.ofDecimal
  rw [h]
  dsimp only
  rw [if_pos hn]

/-- The written form of a condition is settled: its keys stand in order, and
none of them twice. -/
theorem settle_toJson (c : Condition) : c.toJson.settle = c.toJson := by
  have htext : List.Pairwise (· < ·) ["field", "operator", "value"] := by decide
  cases c with
  | text f t caseSensitive =>
    have htexts : ∀ values : List String, (Json.arr (values.map .str)).settle =
      .arr (values.map .str) := by
      intro values
      rw [Json.settle, Json.settleItems_of_forall]
      intro j hj
      obtain ⟨v, -, rfl⟩ := List.mem_map.1 hj
      rfl
    have hvalue : t.valueMember.2.settle = t.valueMember.2 := by
      cases t with
      | containsAny values => exact htexts values
      | _ v => rfl
    have hkey : t.valueMember.1 = "value" ∨ t.valueMember.1 = "values" := by
      cases t with
      | containsAny values => exact .inr rfl
      | _ v => exact .inl rfl
    refine Json.settle_obj ?_ ?_
    · cases caseSensitive <;> simpa [Json.settle] using hvalue
    · have hkeys : ∀ key, key = "value" ∨ key = "values" →
          List.Pairwise (· < ·) ["field", "operator", key] ∧
            List.Pairwise (· < ·) ["case_sensitive", "field", "operator", key] := by
        rintro _ (rfl | rfl) <;> decide
      cases caseSensitive with
      | none => exact (hkeys _ hkey).1
      | some b => exact (hkeys _ hkey).2
  | numeric f t =>
    have hbounds : List.Pairwise (· < ·) ["field", "max_value", "min_value", "operator"] := by
      decide
    cases t with
    | between min max => exact Json.settle_obj (by simp [Json.settle, numberJson]) hbounds
    | _ v => exact Json.settle_obj (by simp [Json.settle, numberJson]) htext

/-- The written form of a condition is plain if its numbers are. -/
theorem plain_toJson {c : Condition}
    (h : ∀ d ∈ c.numbers, ∃ n, d.whole? = some n ∧ Number.fitsSigned n = true) :
    Json.Plain 2 c.toJson := by
  have hstr : ∀ s, Json.Plain 1 (.str s) := fun s => .str 1 s
  cases c with
  | text f t caseSensitive =>
    have hvalue : Json.Plain 1 t.valueMember.2 := by
      cases t with
      | containsAny values =>
        refine .arr fun j hj => ?_
        obtain ⟨v, -, rfl⟩ := List.mem_map.1 hj
        exact .str 0 v
      | _ v => exact .str 1 v
    refine .obj ?_
    cases caseSensitive with
    | none => simpa [hstr] using hvalue
    | some b => simpa [hstr, Json.Plain.bool 1 b] using hvalue
  | numeric f t =>
    have hnumber : ∀ d ∈ t.numbers, Json.Plain 1 (numberJson d) := by
      intro d hd
      obtain ⟨n, hwhole, hn⟩ := h d hd
      rw [numberJson_eq hwhole hn]
      exact .whole 1 hn
    cases t with
    | between min max =>
      obtain ⟨hmin, hmax⟩ : Json.Plain 1 (numberJson min) ∧ Json.Plain 1 (numberJson max) := by
        simpa [NumericTest.numbers] using hnumber
      exact .obj (by simp [hstr, hmin, hmax])
    | _ v =>
      have hv : Json.Plain 1 (numberJson v) := by simpa [NumericTest.numbers] using hnumber
      exact .obj (by simp [hstr, hv])

/-- Numbers of equal value are written alike, whatever places they have. -/
theorem numberJson_congr {d d' : Decimal} (h : d'.value = d.value) :
    numberJson d' = numberJson d := by
  have hwhole : d'.whole? = d.whole? := by
    ext n
    rw [Decimal.whole?_eq_some, Decimal.whole?_eq_some, h]
  unfold numberJson Number.ofDecimal
  rw [hwhole, Decimal.toDouble_congr h]

/-- Conditions of equal value are written alike. -/
theorem toJson_congr {c c' : Condition} (hs : c'.sameValue c = true) : c'.toJson = c.toJson := by
  cases c with
  | text f t caseSensitive =>
    cases c' with
    | text f' t' caseSensitive' =>
      simp only [sameValue, Bool.and_eq_true, beq_iff_eq] at hs
      obtain ⟨⟨rfl, rfl⟩, rfl⟩ := hs
      rfl
    | numeric f' t' => cases hs
  | numeric f t =>
    cases c' with
    | text f' t' caseSensitive => cases hs
    | numeric f' t' =>
      simp only [sameValue, Bool.and_eq_true, beq_iff_eq] at hs
      obtain ⟨rfl, ht⟩ := hs
      have hnumber : ∀ {v v' : Decimal}, v'.sameValue v = true → numberJson v' = numberJson v :=
        fun hsame => numberJson_congr (Decimal.sameValue_iff.1 hsame)
      have hsingle : ∀ op v v', v'.sameValue v = true →
          toJson.single f' op v' = toJson.single f' op v := by
        intro op v v' hsame
        unfold toJson.single
        rw [hnumber hsame]
      cases t with
      | between min max =>
        cases t' with
        | between min' max' =>
          obtain ⟨hmin, hmax⟩ := (Bool.and_eq_true _ _).mp ht
          simp only [toJson]
          rw [hnumber hmin, hnumber hmax]
        | _ v' => cases ht
      | _ v =>
        cases t' <;> first | cases ht | exact hsingle _ v _ ht

end Condition

namespace Conditions

/-- So is the written form of a body. -/
theorem settle_toJson (c : Conditions) : c.toJson.settle = c.toJson := by
  have hitems : ∀ j ∈ c.items.map Condition.toJson, j.settle = j := by
    intro j hj
    obtain ⟨x, -, rfl⟩ := List.mem_map.1 hj
    exact x.settle_toJson
  have hkeys : List.Pairwise (· < ·) ["conditions", "logic"] := by decide
  refine Json.settle_obj ?_ hkeys
  simp only [List.forall_mem_cons]
  refine ⟨?_, rfl, nofun⟩
  rw [Json.settle, Json.settleItems_of_forall hitems]

/-- The written form of a body is plain if its numbers are whole, so reading it
back goes through no double. -/
theorem FitsCell.plain_toJson {c : Conditions} (h : c.FitsCell) : Json.Plain 4 c.toJson := by
  have hitems : Json.Plain 3 (.arr (c.items.map Condition.toJson)) := by
    refine .arr fun j hj => ?_
    obtain ⟨x, hx, rfl⟩ := List.mem_map.1 hj
    exact x.plain_toJson fun d hd => h d (List.mem_flatMap.2 ⟨x, hx, hd⟩)
  refine .obj ?_
  simp only [List.forall_mem_cons]
  exact ⟨hitems, .str _ _, nofun⟩

/-- **A stored body is read again**, with equal numbers.  Reading a row does
just this, from the text in its column. -/
theorem FitsCell.validateText_compact {c : Conditions} (h : c.FitsCell) {body : Json}
    (hc : validate body = .accepted c) :
    ∃ c', validateText c.toJson.compact = .accepted c' ∧ c'.sameValue c = true := by
  obtain ⟨c', hc', hsame⟩ := exists_validate_toJson hc fun d hd => .inl (h d hd)
  refine ⟨c', ?_, hsame⟩
  unfold validateText
  rw [h.plain_toJson.read?_compact (by decide) c.settle_toJson]
  exact hc'

/-- **Bodies of equal value are stored as the same text.** A number that can be
written as a whole one is, with however many zeros it came. -/
theorem toJson_congr {c c' : Conditions} (hs : c'.sameValue c = true) : c'.toJson = c.toJson := by
  obtain ⟨hlogic, hitems⟩ := Conditions.sameValue_iff.1 hs
  have hmap : c'.items.map Condition.toJson = c.items.map Condition.toJson :=
    map_eq_of_forall₂ (fun _ _ hx => Condition.toJson_congr hx) hitems.flip
  unfold toJson
  rw [hmap, hlogic]

end Conditions
end LedgerRules
