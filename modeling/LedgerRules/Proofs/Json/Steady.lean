/-
# Values that come back as they were

Of a value that a reader gave, something comes back from its lines
(`Readable.exists_reread?`), and everything comes back as it was if its doubles
do, and only then (`Readable.reread?_eq_self_iff`).  What comes back of a
settled value is settled (`Settled.reread`), and what comes back of an object
stands under the keys of the object (`reread?_obj`).
-/

import LedgerRules.Proofs.Json.Layout
import LedgerRules.Proofs.Json.Members
import LedgerRules.Proofs.Lists

namespace LedgerRules
namespace Json

/-- All doubles in the value come back from their texts.  A double may come back
as a neighbour, because a text is read with at most 64 bits of digits and one
power of ten. -/
inductive Steady : Json → Prop
  | null : Steady null
  | bool (b : Bool) : Steady (bool b)
  | whole (n : Int) : Steady (num (.whole n))
  | double {x : Binary64} (h : (Number.double x).reread? = some (.double x)) :
    Steady (num (.double x))
  | str (s : String) : Steady (str s)
  | arr {items : List Json} (h : ∀ j ∈ items, Steady j) : Steady (arr items)
  | obj {members : List (String × Json)} (h : ∀ e ∈ members, Steady e.2) : Steady (obj members)

/-- Items come back as they were if each of them does. -/
theorem rereadItems?_eq_self_iff {items : List Json} :
    rereadItems? items = some items ↔ ∀ j ∈ items, reread? j = some j := by
  rw [rereadItems?_eq, mapM_eq_self_iff]

/-- Members come back as they were if each of their values does. -/
theorem rereadMembers?_eq_self_iff {members : List (String × Json)} :
    rereadMembers? members = some members ↔ ∀ e ∈ members, reread? e.2 = some e.2 := by
  rw [rereadMembers?_eq, mapM_eq_self_iff]
  refine forall₂_congr fun e _ => ?_
  obtain ⟨k, v⟩ := e
  simp

/-- **A value that can be read comes back as it was if and only if its doubles
do.** Texts, whole numbers, members and their order always do. -/
theorem Readable.reread?_eq_self_iff {depth : Nat} {j : Json} (h : Readable depth j) :
    reread? j = some j ↔ Steady j := by
  induction h with
  | null => exact iff_of_true rfl .null
  | bool _ b => exact iff_of_true rfl (.bool b)
  | str _ s => exact iff_of_true rfl (.str s)
  | @num _ n hn =>
    rw [reread?]
    cases n with
    | whole n =>
      rw [Number.reread?_whole hn]
      exact iff_of_true rfl (.whole n)
    | double x =>
      constructor
      · intro hread
        obtain ⟨n, hn, heq⟩ := Option.map_eq_some_iff.1 hread
        cases heq
        exact .double hn
      · rintro (_ | _ | _ | hread)
        rw [hread]
        rfl
  | @arr depth items h ih =>
    rw [reread?]
    constructor
    · intro hread
      obtain ⟨js, hjs, heq⟩ := Option.map_eq_some_iff.1 hread
      cases heq
      exact .arr fun j hj => (ih j hj).1 (rereadItems?_eq_self_iff.1 hjs j hj)
    · intro hsteady
      cases hsteady with
      | arr hall =>
        rw [rereadItems?_eq_self_iff.2 fun j hj => (ih j hj).2 (hall j hj)]
        rfl
  | @obj depth members h ih =>
    rw [reread?]
    constructor
    · intro hread
      obtain ⟨ms, hms, heq⟩ := Option.map_eq_some_iff.1 hread
      cases heq
      exact .obj fun e he => (ih e he).1 (rereadMembers?_eq_self_iff.1 hms e he)
    · intro hsteady
      cases hsteady with
      | obj hall =>
        rw [rereadMembers?_eq_self_iff.2 fun e he => (ih e he).2 (hall e he)]
        rfl

/-! ### Settled values -/

/-- Items are settled one by one. -/
theorem settleItems_eq (items : List Json) : settleItems items = items.map settle := by
  induction items with
  | nil => rfl
  | cons j rest ih => rw [settleItems, ih, List.map_cons]

variable {members : List (String × Json)} {j j' : Json} {depth : Nat}

/-- An object is readable if its values are. -/
theorem Readable.object (h : ∀ e ∈ members, Readable depth e.2) :
    Readable (depth + 1) (object members) := by
  refine .obj fun e he => ?_
  rcases mem_of_mem_gather he with hmem | hmem
  · exact h e hmem
  · cases hmem

/-- Settling leaves a value readable, and settled it is. -/
theorem Readable.settle (h : Readable depth j) :
    Readable depth (settle j) ∧ (settle j).Settled := by
  induction h with
  | null => exact ⟨.null _, .null⟩
  | bool _ b => exact ⟨.bool _ b, .bool b⟩
  | num _ hn => exact ⟨.num _ hn, .num _⟩
  | str _ s => exact ⟨.str _ s, .str s⟩
  | @arr depth items h ih =>
    rw [Json.settle, settleItems_eq]
    constructor
    · refine .arr fun i hi => ?_
      obtain ⟨j, hj, rfl⟩ := List.mem_map.1 hi
      exact (ih j hj).1
    · refine .arr fun i hi => ?_
      obtain ⟨j, hj, rfl⟩ := List.mem_map.1 hi
      exact (ih j hj).2
  | @obj depth members h ih =>
    rw [settle_obj_eq]
    constructor
    · refine .object fun e he => ?_
      obtain ⟨e', he', rfl⟩ := List.mem_map.1 he
      exact (ih e' he').1
    · refine .object fun e he => ?_
      obtain ⟨e', he', rfl⟩ := List.mem_map.1 he
      exact (ih e' he').2

/-- Items come back as others if they do so one by one. -/
theorem rereadItems?_eq_some_iff {items items' : List Json} :
    rereadItems? items = some items' ↔
      List.Forall₂ (fun j j' => reread? j = some j') items items' := by
  rw [rereadItems?_eq, mapM_eq_some_iff]

/-- A member comes back as another one, under its key. -/
def RereadAs (e e' : String × Json) : Prop := e'.1 = e.1 ∧ reread? e.2 = some e'.2

/-- What a member comes back as has its key, and what its value comes back as. -/
theorem rereadAs_iff {e e' : String × Json} :
    (reread? e.2).map (e.1, ·) = some e' ↔ RereadAs e e' := by
  obtain ⟨k', v'⟩ := e'
  unfold RereadAs
  rw [Option.map_eq_some_iff]
  constructor
  · rintro ⟨v, hv, ⟨⟩⟩
    exact ⟨rfl, hv⟩
  · rintro ⟨rfl, hv⟩
    exact ⟨v', hv, rfl⟩

/-- Members come back as others if they do so one by one. -/
theorem rereadMembers?_eq_some_iff {members' : List (String × Json)} :
    rereadMembers? members = some members' ↔ List.Forall₂ RereadAs members members' := by
  rw [rereadMembers?_eq, mapM_eq_some_iff]
  simp only [rereadAs_iff]

/-- What comes back of an object holds what comes back of its members. -/
theorem reread?_obj {members' : List (String × Json)} (h : List.Forall₂ RereadAs members members') :
    reread? (obj members) = some (obj members') := by
  rw [reread?, rereadMembers?_eq_some_iff.2 h]
  rfl

/-- **Whatever a reader gives is written as a value that a reader takes**, to
give one that is as readable.  So saving never makes a text that cannot be read.
-/
theorem Readable.exists_reread? (h : Readable depth j) :
    ∃ j', reread? j = some j' ∧ Readable depth j' := by
  induction h with
  | null => exact ⟨_, rfl, .null _⟩
  | bool _ b => exact ⟨_, rfl, .bool _ b⟩
  | str _ s => exact ⟨_, rfl, .str _ s⟩
  | num _ hn =>
    obtain ⟨n', hn'⟩ := Number.exists_reread? hn
    refine ⟨.num n', by rw [reread?, hn']; rfl, .num _ ?_⟩
    obtain ⟨⟨_, rest⟩, hread, rfl⟩ := Option.map_eq_some_iff.1 hn'
    exact fitsWord_of_readNumber? hread
  | @arr depth items h ih =>
    obtain ⟨items', hitems⟩ := exists_forall₂ ih
    refine ⟨.arr items', ?_, .arr fun j' hj' => ?_⟩
    · rw [reread?, rereadItems?_eq_some_iff.2 (hitems.imp fun _ _ h => h.1)]
      rfl
    · obtain ⟨_, -, -, hj⟩ := exists_of_forall₂ hitems.flip j' hj'
      exact hj
  | @obj depth members h ih =>
    have hall : ∀ e ∈ members, ∃ e', RereadAs e e' ∧ Readable depth e'.2 := by
      intro e he
      obtain ⟨v', hv, hv'⟩ := ih e he
      exact ⟨(e.1, v'), ⟨rfl, hv⟩, hv'⟩
    obtain ⟨members', hmembers⟩ := exists_forall₂ hall
    refine ⟨.obj members', ?_, .obj fun e' he' => ?_⟩
    · rw [reread?, rereadMembers?_eq_some_iff.2 (hmembers.imp fun _ _ h => h.1)]
      rfl
    · obtain ⟨_, -, -, he⟩ := exists_of_forall₂ hmembers.flip e' he'
      exact he

/-- What comes back of a settled value is settled, since keys are written as
they are. -/
theorem Settled.reread (h : Settled j) (hr : reread? j = some j') : j'.Settled := by
  induction h generalizing j' with
  | null =>
    cases hr
    exact .null
  | bool b =>
    cases hr
    exact .bool b
  | num n =>
    obtain ⟨n', -, rfl⟩ := Option.map_eq_some_iff.1 hr
    exact .num n'
  | str s =>
    cases hr
    exact .str s
  | arr h ih =>
    obtain ⟨items', hitems, rfl⟩ := Option.map_eq_some_iff.1 hr
    refine .arr fun j' hj' => ?_
    obtain ⟨j, hj, hjj'⟩ := exists_of_forall₂ (rereadItems?_eq_some_iff.1 hitems).flip j' hj'
    exact ih j hj hjj'
  | obj h hp ih =>
    obtain ⟨members', hmembers, rfl⟩ := Option.map_eq_some_iff.1 hr
    have hall := rereadMembers?_eq_some_iff.1 hmembers
    refine .obj (fun e' he' => ?_) ?_
    · obtain ⟨e, he, -, hee'⟩ := exists_of_forall₂ hall.flip e' he'
      exact ih e he hee'
    · rwa [map_eq_of_forall₂ (fun _ _ h => h.1) hall]

end Json
end LedgerRules
