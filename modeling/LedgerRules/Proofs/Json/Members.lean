/-
# The members of an object

In a list of members the first of a key counts.  Where an object is settled its
members are gathered one after the other, so the last of a key stays, and keys
come to stand in ascending order (`member?_gather`, `pairwise_gather`).  A
settled value is settled to itself (`Settled.settle_eq`).
-/

import LedgerRules.Json.Value
import Mathlib.Data.String.Basic

namespace LedgerRules
namespace Json

/-! ### Looking members up -/

/-- Where keys are distinct every member is found under its key. -/
theorem member?_of_mem {members : List (String × Json)} (h : (members.map Prod.fst).Nodup)
    {key : String}
    {j : Json} (hmem : (key, j) ∈ members) : member? members key = some j := by
  unfold member?
  induction members with
  | nil => cases hmem
  | cons member rest ih =>
    obtain ⟨k, j'⟩ := member
    obtain ⟨hk, hrest⟩ := List.nodup_cons.1 h
    rcases List.mem_cons.1 hmem with heq | hin
    · obtain ⟨rfl, rfl⟩ := Prod.mk.inj heq
      exact List.lookup_cons_self
    · have hne : key ≠ k := by
        rintro rfl
        exact hk (List.mem_map.2 ⟨(key, j), hin, rfl⟩)
      rw [List.lookup_cons, beq_eq_false_iff_ne.2 hne]
      exact ih hrest hin

/-- Leaving out members by their keys leaves the others where they are found. -/
theorem member?_filter (members : List (String × Json)) (p : String → Bool) (key : String) :
    member? (members.filter fun member => p member.1) key =
      if p key then member? members key else none := by
  unfold member?
  induction members with
  | nil => simp
  | cons member rest ih =>
    obtain ⟨k, j⟩ := member
    rw [List.filter_cons, List.lookup_cons]
    by_cases hk : key = k
    · subst hk
      cases hp : p key <;> simp [hp, ih]
    · have hbeq : (key == k) = false := beq_eq_false_iff_ne.2 hk
      cases p k <;> simp [ih, List.lookup_cons, hbeq]

/-- Changing values by their keys changes what is found under them. -/
theorem member?_map (members : List (String × Json)) (f : String → Json → Json) (key : String) :
    member? (members.map fun (k, j) => (k, f k j)) key = (member? members key).map (f key) := by
  unfold member?
  induction members with
  | nil => rfl
  | cons member rest ih =>
    obtain ⟨k, j⟩ := member
    rw [List.map_cons, List.lookup_cons, List.lookup_cons]
    by_cases hk : key = k
    · subst hk
      simp
    · rw [beq_eq_false_iff_ne.2 hk]
      exact ih

/-- A member that is there is among the members. -/
theorem mem_of_member? {members : List (String × Json)} {key : String} {j : Json}
    (h : member? members key = some j) : (key, j) ∈ members := by
  unfold member? at h
  induction members with
  | nil => cases h
  | cons member rest ih =>
    obtain ⟨k, j'⟩ := member
    rw [List.lookup_cons] at h
    split at h
    · rename_i hk
      obtain rfl := beq_iff_eq.1 hk
      exact Option.some.inj h ▸ List.mem_cons_self
    · exact List.mem_cons_of_mem _ (ih h)

/-! ### Gathering members -/

/-- Members put one after another into gathered ones, each in the place of its
key or over the one that stands there. -/
def gather (members done : List (String × Json)) : List (String × Json) :=
  members.foldl (fun done (k, v) => insertMember k v done) done

/-- An object that is put together has its members gathered. -/
theorem object_eq (members : List (String × Json)) : object members = obj (gather members []) := rfl

/-- To settle members is to gather them with their values settled. -/
theorem settleMembers_eq (members done : List (String × Json)) :
    settleMembers members done = gather (members.map fun (k, v) => (k, settle v)) done := by
  induction members generalizing done with
  | nil => rfl
  | cons member rest ih =>
    obtain ⟨k, v⟩ := member
    rw [settleMembers, ih]
    rfl

/-- To settle an object is to put it together from its members with their values
settled. -/
theorem settle_obj_eq (members : List (String × Json)) :
    settle (obj members) = object (members.map fun (k, v) => (k, settle v)) := by
  rw [settle, settleMembers_eq, object_eq]

variable {members done : List (String × Json)} {key : String} {value : Json}

/-- What is put in is found under its key, and all else as before. -/
theorem member?_insertMember (key : String) (value : Json) (members : List (String × Json))
    (key' : String) : member? (insertMember key value members) key' =
      if key' = key then some value else member? members key' := by
  have hcons : ∀ (k : String) (v : Json) (rest : List (String × Json)),
      member? ((k, v) :: rest) key' = if key' = k then some v else member? rest key' := by
    intro k v rest
    unfold member?
    rw [List.lookup_cons]
    by_cases h : key' = k
    · simp [h]
    · simp [beq_eq_false_iff_ne.2 h, h]
  induction members with
  | nil => rw [insertMember, hcons]
  | cons member rest ih =>
    obtain ⟨k, v⟩ := member
    rw [insertMember, hcons]
    split
    · rename_i hk
      rw [hcons, hk]
      split <;> rfl
    · rename_i hk
      split
      · rw [hcons, hcons]
      · rw [hcons, ih]
        by_cases h : key' = k
        · rw [if_pos h, if_pos h, if_neg fun h' => hk (h'.symm.trans h)]
        · rw [if_neg h, if_neg h]

/-- The last of the values that stand under a key.  `member?` finds the first;
in a gathered list there is only one. -/
def last? (members : List (String × Json)) (key : String) : Option Json :=
  ((members.filter (·.1 == key)).getLast?).map Prod.snd

/-- Of two lists one after the other the second one counts where it has the key. -/
theorem last?_append (members others : List (String × Json)) (key : String) :
    last? (members ++ others) key = (last? others key).or (last? members key) := by
  unfold last?
  rw [List.filter_append, List.getLast?_append, Option.map_or]

/-- The first member counts only where no later one has its key. -/
theorem last?_cons (member : String × Json) (rest : List (String × Json)) (key : String) :
    last? (member :: rest) key =
      (last? rest key).or (if key = member.1 then some member.2 else none) := by
  have hone : last? [member] key = if key = member.1 then some member.2 else none := by
    by_cases hk : key = member.1
    · simp [last?, hk]
    · simp [last?, hk, Ne.symm hk]
  rw [← hone, ← last?_append, List.singleton_append]

/-- Changing all values changes the last one. -/
theorem last?_map (f : Json → Json) (members : List (String × Json)) (key : String) :
    last? (members.map fun (k, v) => (k, f v)) key = (last? members key).map f := by
  unfold last?
  rw [List.filter_map, List.getLast?_map, Option.map_map, Option.map_map]
  rfl

/-- Members with other keys do not count. -/
theorem last?_filter {p : String → Bool} (members : List (String × Json)) (h : p key = true) :
    last? (members.filter fun e => p e.1) key = last? members key := by
  unfold last?
  rw [List.filter_filter]
  congr 2
  refine List.filter_congr fun e _ => ?_
  by_cases hk : e.1 = key
  · simp [hk, h]
  · simp [hk]

/-- A key that no member has has no last value. -/
theorem last?_eq_none (h : ∀ e ∈ members, e.1 ≠ key) : last? members key = none := by
  unfold last?
  rw [List.filter_eq_nil_iff.2 (by simpa using h)]
  rfl

/-- **Of a repeated key the last member stays.** That is what a map does which
is filled member by member. -/
theorem member?_gather (members done : List (String × Json)) (key : String) :
    member? (gather members done) key = (last? members key).or (member? done key) := by
  induction members generalizing done with
  | nil => rfl
  | cons member rest ih =>
    obtain ⟨k, v⟩ := member
    have hrest : gather ((k, v) :: rest) done = gather rest (insertMember k v done) := rfl
    rw [hrest, ih, member?_insertMember, last?_cons, Option.or_assoc]
    by_cases hk : key = k <;> simp [hk]

/-- The value of a key in an object that is put together. -/
theorem get?_object (members : List (String × Json)) (key : String) :
    (object members).get? key = last? members key := by
  show member? (gather members []) key = _
  rw [member?_gather]
  exact Option.or_none

/-- The value of a key in a settled object. -/
theorem get?_settle_obj (members : List (String × Json)) (key : String) :
    (obj members).settle.get? key = (last? members key).map settle := by
  rw [settle_obj_eq, get?_object, last?_map]

/-- What is there once a member was put in was there, or is that member. -/
theorem mem_of_mem_insertMember {e : String × Json} (h : e ∈ insertMember key value members) :
    e = (key, value) ∨ e ∈ members := by
  induction members with
  | nil => simpa [insertMember] using h
  | cons member rest ih =>
    rw [insertMember] at h
    split at h
    · rcases List.mem_cons.1 h with rfl | h
      · exact .inl rfl
      · exact .inr (List.mem_cons_of_mem _ h)
    · split at h
      · exact List.mem_cons.1 h
      · rcases List.mem_cons.1 h with rfl | h
        · exact .inr List.mem_cons_self
        · exact (ih h).imp_right (List.mem_cons_of_mem _)

/-- What is gathered was there. -/
theorem mem_of_mem_gather {e : String × Json} (h : e ∈ gather members done) :
    e ∈ members ∨ e ∈ done := by
  induction members generalizing done with
  | nil => exact .inr h
  | cons member rest ih =>
    rcases ih h with hrest | hdone
    · exact .inl (List.mem_cons_of_mem _ hrest)
    · rcases mem_of_mem_insertMember hdone with rfl | hdone
      · exact .inl List.mem_cons_self
      · exact .inr hdone

/-- **Gathered members stand in ascending order**, whatever order they came in.
-/
theorem pairwise_gather (h : (done.map Prod.fst).Pairwise (· < ·)) :
    ((gather members done).map Prod.fst).Pairwise (· < ·) := by
  have hinsert : ∀ (k : String) (v : Json) {done : List (String × Json)},
      (done.map Prod.fst).Pairwise (· < ·) →
        ((insertMember k v done).map Prod.fst).Pairwise (· < ·) := by
    intro k v done hdone
    induction done with
    | nil => exact List.pairwise_singleton _ _
    | cons member rest ih =>
      obtain ⟨k', v'⟩ := member
      obtain ⟨hlt, hrest⟩ := List.pairwise_cons.1 hdone
      rw [insertMember]
      split
      · rename_i hk
        exact List.pairwise_cons.2 ⟨hk ▸ hlt, hrest⟩
      · rename_i hne
        split
        · rename_i hk
          refine List.pairwise_cons.2 ⟨fun a ha => ?_, hdone⟩
          rcases List.mem_cons.1 ha with rfl | ha
          · exact hk
          · exact String.lt_trans hk (hlt a ha)
        · rename_i hk
          have hafter : k' < k := (lt_or_gt_of_ne hne).resolve_left hk
          refine List.pairwise_cons.2 ⟨fun a ha => ?_, ih hrest⟩
          obtain ⟨e, he, rfl⟩ := List.mem_map.1 ha
          rcases mem_of_mem_insertMember he with rfl | he
          · exact hafter
          · exact hlt _ (List.mem_map_of_mem he)
  induction members generalizing done with
  | nil => exact h
  | cons member rest ih => exact ih (hinsert _ _ h)

/-! ### Settled values -/

/-- A key behind all others comes last. -/
theorem insertMember_of_forall_lt {key : String} {value : Json} {members : List (String × Json)}
    (h : ∀ e ∈ members, e.1 < key) :
    insertMember key value members = members ++ [(key, value)] := by
  induction members with
  | nil => rfl
  | cons e members ih =>
    obtain ⟨he, hmembers⟩ := List.forall_mem_cons.1 h
    obtain ⟨k, v⟩ := e
    have hlt : k < key := he
    rw [insertMember, if_neg (fun heq => absurd (heq ▸ hlt) (String.lt_irrefl _)),
      if_neg (String.lt_asymm hlt), ih hmembers]
    rfl

/-- Members with ascending keys stay in their order, so gathering them once more
changes nothing. -/
theorem gather_of_pairwise (hp : ((done ++ members).map Prod.fst).Pairwise (· < ·)) :
    gather members done = done ++ members := by
  induction members generalizing done with
  | nil => exact (List.append_nil done).symm
  | cons member rest ih =>
    obtain ⟨k, v⟩ := member
    have hlast : ∀ e ∈ done, e.1 < k := by
      intro e he
      rw [List.map_append, List.pairwise_append] at hp
      exact hp.2.2 e.1 (List.mem_map_of_mem he) k List.mem_cons_self
    have hrest : gather ((k, v) :: rest) done = gather rest (insertMember k v done) := rfl
    rw [hrest, insertMember_of_forall_lt hlast, ih (by simpa using hp)]
    simp

/-- Under ascending keys no value stands behind another one, so the last and the
first are the same. -/
theorem last?_of_pairwise (hp : (members.map Prod.fst).Pairwise (· < ·)) (key : String) :
    last? members key = member? members key := by
  have hgather := member?_gather members [] key
  rw [gather_of_pairwise (by simpa using hp), List.nil_append] at hgather
  rw [hgather]
  exact Option.or_none.symm

/-- Under ascending keys one member at most has the key. -/
theorem filter_of_pairwise (hp : (members.map Prod.fst).Pairwise (· < ·)) (key : String) :
    members.filter (·.1 == key) = ((member? members key).map (key, ·)).toList := by
  unfold member?
  induction members with
  | nil => rfl
  | cons member rest ih =>
    obtain ⟨k, v⟩ := member
    obtain ⟨hlt, hrest⟩ := List.pairwise_cons.1 hp
    rw [List.filter_cons, List.lookup_cons]
    by_cases hk : k = key
    · subst hk
      have hnone : rest.filter (·.1 == k) = [] := by
        refine List.filter_eq_nil_iff.2 fun e he => ?_
        simpa using (hlt e.1 (List.mem_map_of_mem he)).ne'
      simp [hnone]
    · rw [if_neg (by simpa using hk), ih hrest, beq_eq_false_iff_ne.2 (Ne.symm hk)]

/-- **Ascending members are told by their lookups.** In this form members can be
compared where only what is found under a key is known of them. -/
theorem eq_of_member?_eq {others : List (String × Json)}
    (hm : (members.map Prod.fst).Pairwise (· < ·)) (ho : (others.map Prod.fst).Pairwise (· < ·))
    (h : ∀ key, member? members key = member? others key) : members = others := by
  have hnodup : ∀ {ms : List (String × Json)}, (ms.map Prod.fst).Pairwise (· < ·) → ms.Nodup :=
    fun hms => (hms.imp ne_of_lt).of_map Prod.fst fun _ _ => ne_of_apply_ne Prod.fst
  have hperm : members.Perm others := by
    refine (List.perm_ext_iff_of_nodup (hnodup hm) (hnodup ho)).2 fun e => ⟨fun he => ?_,
      fun he => ?_⟩
    · exact mem_of_member? ((h e.1).symm.trans (member?_of_mem (hm.imp ne_of_lt) he))
    · exact mem_of_member? ((h e.1).trans (member?_of_mem (ho.imp ne_of_lt) he))
  rw [List.pairwise_map] at hm ho
  exact hperm.eq_of_pairwise (fun _ _ _ _ hlt hgt => absurd hgt (String.lt_asymm hlt)) hm ho

/-- **In whichever order members with distinct keys stand**, each key has its
value: those of ascending keys, in another order, are looked up alike. -/
theorem last?_of_perm {others : List (String × Json)} (h : others.Perm members)
    (hp : (members.map Prod.fst).Pairwise (· < ·)) (key : String) :
    last? others key = member? members key := by
  have hfilter : (others.filter (·.1 == key)).Perm ((member? members key).map (key, ·)).toList := by
    rw [← filter_of_pairwise hp]
    exact h.filter _
  unfold last?
  cases hmember : member? members key with
  | none =>
    rw [hmember] at hfilter
    rw [hfilter.eq_nil]
    rfl
  | some v =>
    rw [hmember] at hfilter
    rw [hfilter.eq_singleton]
    rfl

/-- **Objects with the same lookups are put together alike.** Repeated keys and
the order of members are gone after that. -/
theorem object_congr {others : List (String × Json)}
    (h : ∀ key, last? others key = last? members key) : object others = object members := by
  rw [object_eq, object_eq]
  refine congrArg obj (eq_of_member?_eq (pairwise_gather .nil) (pairwise_gather .nil) fun key => ?_)
  rw [member?_gather, member?_gather, h]

/-- Members of ascending keys are gathered from any order that they stand in. -/
theorem gather_of_perm {others : List (String × Json)} (h : others.Perm members)
    (hp : (members.map Prod.fst).Pairwise (· < ·)) : gather others [] = members := by
  refine eq_of_member?_eq (pairwise_gather .nil) hp fun key => ?_
  rw [member?_gather, last?_of_perm h hp]
  exact Option.or_none

/-- An object with ascending keys and settled values is settled. -/
theorem settle_obj {members : List (String × Json)} (hs : ∀ e ∈ members, settle e.2 = e.2)
    (hp : (members.map Prod.fst).Pairwise (· < ·)) : settle (obj members) = obj members := by
  have hvalues : (members.map fun (k, v) => (k, settle v)) = members := by
    conv_rhs => rw [← List.map_id members]
    exact List.map_congr_left fun e he => Prod.ext rfl (hs e he)
  rw [settle_obj_eq, hvalues, object_eq, gather_of_pairwise (by simpa using hp), List.nil_append]

/-- Settled items are settled to themselves, one by one. -/
theorem settleItems_of_forall {items : List Json} (hs : ∀ j ∈ items, settle j = j) :
    settleItems items = items := by
  induction items with
  | nil => rfl
  | cons j items ih =>
    obtain ⟨hj, hitems⟩ := List.forall_mem_cons.1 hs
    rw [settleItems, hj, ih hitems]

/-- Every object in the value has its keys in ascending order.  This is the
shape of every `Value` whose maps are sorted, and the shape that `settle` gives. -/
inductive Settled : Json → Prop
  | null : Settled null
  | bool (b : Bool) : Settled (bool b)
  | num (n : Number) : Settled (num n)
  | str (s : String) : Settled (str s)
  | arr {items : List Json} (h : ∀ j ∈ items, Settled j) : Settled (arr items)
  | obj {members : List (String × Json)} (h : ∀ e ∈ members, Settled e.2)
    (hp : (members.map Prod.fst).Pairwise (· < ·)) : Settled (obj members)

/-- **A settled value is settled to itself.** Whatever was read once is not
changed by settling it again. -/
theorem Settled.settle_eq {j : Json} (h : Settled j) : settle j = j := by
  induction h with
  | arr _ ih => rw [settle, settleItems_of_forall ih]
  | obj _ hp ih => exact settle_obj ih hp
  | _ => rfl

/-- An object is settled if its values are. -/
theorem Settled.object (h : ∀ e ∈ members, Settled e.2) : Settled (object members) := by
  refine .obj (fun e he => ?_) (pairwise_gather .nil)
  rcases mem_of_mem_gather he with hmem | hmem
  · exact h e hmem
  · cases hmem

end Json
end LedgerRules
