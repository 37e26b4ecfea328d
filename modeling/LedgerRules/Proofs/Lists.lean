/-
# Lists element by element

Two lists of equal length may be related place by place.  Such relations
compose, each gives every element its partner, and one can be built from one
partner for each element.  Where a question has the same answer for partners,
both lists are searched, filtered and sorted alike.

Sorting keeps level elements in their order (`pairwise_mergeSort_level`), so an
element is sorted into a sorted list before all that it is level with
(`mergeSort_cons_eq`), one behind the others and last of all stays there
(`mergeSort_concat_last`), and it makes no difference whether elements are
picked before or after (`mergeSort_filter`).  Where no two elements are level,
neither does it make a difference in which order they were before
(`mergeSort_eq_of_perm`).
-/

import Mathlib.Algebra.GroupWithZero.Nat
import Mathlib.Data.List.Forall2
import Mathlib.Data.List.Sort

namespace LedgerRules

variable {α β γ : Type}

/-- Relations between lists are put one behind the other, element by element. -/
theorem forall₂_trans {R : α → β → Prop} {S : β → γ → Prop} {T : α → γ → Prop}
    (hT : ∀ a b c, R a b → S b c → T a c) :
    ∀ {l₁ : List α} {l₂ : List β} {l₃ : List γ},
      List.Forall₂ R l₁ l₂ → List.Forall₂ S l₂ l₃ → List.Forall₂ T l₁ l₃
  | _, _, _, .nil, .nil => .nil
  | _, _, _, .cons h₁ t₁, .cons h₂ t₂ => .cons (hT _ _ _ h₁ h₂) (forall₂_trans hT t₁ t₂)

/-- Every element of the first list has a partner in the second. -/
theorem exists_of_forall₂ {R : α → β → Prop} {l : List α} {l' : List β}
    (h : List.Forall₂ R l l') : ∀ a ∈ l, ∃ b ∈ l', R a b := by
  induction h with
  | nil => simp
  | cons hab _ ih =>
    intro x hx
    rcases List.mem_cons.1 hx with rfl | hx
    · exact ⟨_, List.mem_cons_self .., hab⟩
    · obtain ⟨b, hb, hxb⟩ := ih x hx
      exact ⟨b, List.mem_cons_of_mem _ hb, hxb⟩

/-- What a relation carries over from elements to their partners, it carries
over from all of a list to all of the other. -/
theorem forall_of_forall₂ {R : α → β → Prop} {P : α → Prop} {Q : β → Prop}
    (hR : ∀ a b, R a b → P a → Q b) {l : List α} {l' : List β} (h : List.Forall₂ R l l')
    (hl : ∀ a ∈ l, P a) : ∀ b ∈ l', Q b := by
  intro b hb
  obtain ⟨a, ha, hab⟩ := exists_of_forall₂ h.flip b hb
  exact hR a b hab (hl a ha)

/-- Where every element has a partner there is a list of them. -/
theorem exists_forall₂ {R : α → β → Prop} {l : List α} (h : ∀ a ∈ l, ∃ b, R a b) :
    ∃ l', List.Forall₂ R l l' := by
  induction l with
  | nil => exact ⟨[], .nil⟩
  | cons a l ih =>
    obtain ⟨⟨b, hab⟩, hl⟩ := List.forall_mem_cons.1 h
    obtain ⟨l', hl'⟩ := ih hl
    exact ⟨b :: l', .cons hab hl'⟩

/-- What two lists agree on element by element, their images agree on. -/
theorem map_eq_of_forall₂ {R : α → γ → Prop} {f : α → β} {g : γ → β}
    (hR : ∀ a c, R a c → g c = f a) {l : List α} {l' : List γ} (h : List.Forall₂ R l l') :
    l'.map g = l.map f := by
  induction h with
  | nil => rfl
  | cons hac _ ih => rw [List.map_cons, List.map_cons, hR _ _ hac, ih]

/-- One more element whose image is new leaves the images distinct. -/
theorem nodup_map_concat {f : α → β} {l : List α} {a : α} (hd : (l.map f).Nodup)
    (hnew : ∀ b ∈ l, f b ≠ f a) : ((l ++ [a]).map f).Nodup := by
  rw [List.map_append, List.nodup_append]
  refine ⟨hd, List.nodup_singleton _, fun c hc c' hc' he => ?_⟩
  obtain ⟨b, hb, rfl⟩ := List.mem_map.1 hc
  exact hnew b hb (he.trans (List.mem_singleton.1 hc'))

/-- One more element that a test fails for is not among those that pass it. -/
theorem filter_concat_of_neg {keep : α → Bool} {l : List α} {a : α} (h : keep a = false) :
    (l ++ [a]).filter keep = l.filter keep := by
  rw [List.filter_append, List.filter_cons_of_neg (Bool.eq_false_iff.1 h), List.filter_nil,
    List.append_nil]

/-- What is taken out by one test is not missed by a stricter one. -/
theorem filter_filter_of_imp {keep p : α → Bool} {l : List α}
    (h : ∀ a, p a = true → keep a = true) : (l.filter keep).filter p = l.filter p := by
  rw [List.filter_filter]
  refine List.filter_congr fun a _ => ?_
  cases hp : p a with
  | false => rfl
  | true => exact h a hp

/-- A sum over the elements that pass a test counts the others as nothing. -/
theorem sum_map_filter (test : α → Bool) (f : α → Nat) (l : List α) :
    ((l.filter test).map f).sum = (l.map fun a => if test a then f a else 0).sum := by
  induction l with
  | nil => rfl
  | cons a l ih =>
    rw [List.filter_cons, List.map_cons, List.sum_cons, ← ih]
    split
    · rw [List.map_cons, List.sum_cons]
    · rw [Nat.zero_add]

/-! ### Looking through two lists at once -/

section Together

variable {R : α → β → Prop} {p : α → Bool} {q : β → Bool} {l : List α} {l' : List β}

/-- A search finds partners, or nothing in both lists, if its test is on what
partners have in common. -/
theorem find?_of_forall₂ (hpq : ∀ a b, R a b → p a = q b) (h : List.Forall₂ R l l') :
    Option.Rel R (l.find? p) (l'.find? q) := by
  induction h with
  | nil => exact .none
  | @cons a b l l' hab _ ih =>
    rw [List.find?_cons, List.find?_cons, hpq a b hab]
    cases q b with
    | true => exact .some hab
    | false => exact ih

/-- A test holds somewhere in the one list if it does in the other. -/
theorem any_of_forall₂ (hpq : ∀ a b, R a b → p a = q b) (h : List.Forall₂ R l l') :
    l.any p = l'.any q := by
  induction h with
  | nil => rfl
  | cons hab _ ih => rw [List.any_cons, List.any_cons, hpq _ _ hab, ih]

/-- Partners are kept together. -/
theorem filter_of_forall₂ (hpq : ∀ a b, R a b → p a = q b) (h : List.Forall₂ R l l') :
    List.Forall₂ R (l.filter p) (l'.filter q) :=
  List.rel_filter (fun a b hab => by show p a = true ↔ q b = true; rw [hpq a b hab]) h

/-- Partners are counted together. -/
theorem countP_of_forall₂ (hpq : ∀ a b, R a b → p a = q b) (h : List.Forall₂ R l l') :
    l.countP p = l'.countP q := by
  rw [List.countP_eq_length_filter, List.countP_eq_length_filter]
  exact (filter_of_forall₂ hpq h).length_eq

/-- Lists whose elements compare alike are sorted alike. -/
theorem mergeSort_of_forall₂ (le : α → α → Bool) (le' : β → β → Bool)
    (hle : ∀ a b c d, R a b → R c d → le a c = le' b d) (h : List.Forall₂ R l l') :
    List.Forall₂ R (l.mergeSort le) (l'.mergeSort le') := by
  -- Both are sorted as the list of pairs is.
  obtain ⟨hlen, hzip⟩ := List.forall₂_iff_zip.1 h
  let pairs : List (α × β) := (l.zip l').mergeSort fun x y => le x.1 y.1
  have hmem : ∀ x ∈ l.zip l', R x.1 x.2 := fun x hx => hzip hx
  have hfst : pairs.map Prod.fst = l.mergeSort le := by
    rw [List.map_mergeSort (s := le) fun x _ y _ => rfl, List.map_fst_zip (Nat.le_of_eq hlen)]
  have hsnd : pairs.map Prod.snd = l'.mergeSort le' := by
    rw [List.map_mergeSort (s := le') fun x hx y hy => hle _ _ _ _ (hmem x hx) (hmem y hy),
      List.map_snd_zip (Nat.le_of_eq hlen.symm)]
  rw [← hfst, ← hsnd, List.forall₂_map_left_iff, List.forall₂_map_right_iff, List.forall₂_same]
  exact fun x hx => hmem x (List.mem_mergeSort.1 hx)

/-- Two elements are sorted by one comparison. -/
theorem mergeSort_pair (le : α → α → Bool) (a b : α) :
    [a, b].mergeSort le = if le a b then [a, b] else [b, a] := by
  rw [List.mergeSort]
  cases h : le a b <;> simp [List.MergeSort.Internal.splitInTwo, h]

/-- Where every element can be read, so can the list. -/
theorem mapM_of_forall₂ {ε : Type} {read : β → Except ε γ} {S : α → γ → Prop}
    (hread : ∀ a b, R a b → ∃ c, read b = .ok c ∧ S a c) (h : List.Forall₂ R l l') :
    ∃ l'', l'.mapM read = .ok l'' ∧ List.Forall₂ S l l'' := by
  induction h with
  | nil => exact ⟨[], rfl, .nil⟩
  | cons hab _ ih =>
    obtain ⟨c, hc, hs⟩ := hread _ _ hab
    obtain ⟨l'', hl, hsl⟩ := ih
    refine ⟨c :: l'', ?_, .cons hs hsl⟩
    rw [List.mapM_cons, hc, hl]
    rfl

/-- Where a list was read, every element was. -/
theorem forall₂_of_mapM {ε : Type} {read : α → Except ε β} (h : l.mapM read = .ok l') :
    List.Forall₂ (fun a b => read a = .ok b) l l' := by
  induction l generalizing l' with
  | nil =>
    cases h
    exact .nil
  | cons a l ih =>
    rw [List.mapM_cons] at h
    cases ha : read a with
    | error e =>
      rw [ha] at h
      cases h
    | ok b =>
      cases hl : l.mapM read with
      | error e =>
        rw [ha, hl] at h
        cases h
      | ok rest =>
        rw [ha, hl] at h
        cases h
        exact .cons ha (ih hl)

end Together

/-! ### Elements that may be missing -/

section Missing

variable {f : α → Option β} {l : List α} {l' : List β}

/-- A list is mapped by its first element and then by the others. -/
theorem mapM_cons_eq (f : α → Option β) (a : α) (l : List α) :
    (a :: l).mapM f = (f a).bind fun b => (l.mapM f).map (b :: ·) := by
  rw [List.mapM_cons]
  cases f a with
  | none => rfl
  | some b => cases l.mapM f <;> rfl

/-- A list is there if every element is. -/
theorem mapM_eq_some_iff : l.mapM f = some l' ↔ List.Forall₂ (fun a b => f a = some b) l l' := by
  constructor
  · intro h
    induction l generalizing l' with
    | nil =>
      cases h
      exact .nil
    | cons a l ih =>
      rw [mapM_cons_eq] at h
      obtain ⟨b, hb, hrest⟩ := Option.bind_eq_some_iff.1 h
      obtain ⟨rest, hl, rfl⟩ := Option.map_eq_some_iff.1 hrest
      exact .cons hb (ih hl)
  · intro h
    induction h with
    | nil => rfl
    | cons hab _ ih =>
      rw [mapM_cons_eq, hab, ih]
      rfl

/-- A list is mapped to itself if every element is. -/
theorem mapM_eq_self_iff {f : α → Option α} : l.mapM f = some l ↔ ∀ a ∈ l, f a = some a := by
  rw [mapM_eq_some_iff, List.forall₂_same]

end Missing

/-! ### Sorting one more element -/

section Sorting

variable {le : α → α → Bool} (htrans : ∀ a b c, le a b = true → le b c = true → le a c = true)
  (htotal : ∀ a b, (le a b || le b a) = true)
include htrans

/-- What is kept of a sorted list with one more element in its place is what is
kept of the list, with that element in its place if it is kept. -/
theorem filter_orderedInsert (keep : α → Bool) (a : α) {s : List α}
    (hs : s.Pairwise fun x y => le x y = true) :
    (s.orderedInsert (fun x y => le x y = true) a).filter keep = if keep a
      then (s.filter keep).orderedInsert (fun x y => le x y = true) a else s.filter keep := by
  induction s with
  | nil =>
    rw [List.orderedInsert_nil, List.filter_singleton, List.filter_nil, Bool.cond_eq_ite]
    rfl
  | cons b s ih =>
    obtain ⟨hb, hs⟩ := List.pairwise_cons.1 hs
    rw [List.orderedInsert_cons]
    by_cases hab : le a b = true
    · have hall : ∀ c ∈ (b :: s).filter keep, le a c = true := by
        intro c hc
        rcases List.mem_cons.1 (List.mem_of_mem_filter hc) with rfl | hc
        · exact hab
        · exact htrans a b c hab (hb c hc)
      rw [if_pos hab, List.filter_cons]
      split
      · cases hrest : (b :: s).filter keep with
        | nil => rfl
        | cons c rest =>
          rw [List.orderedInsert_cons, if_pos (hall c (hrest ▸ List.mem_cons_self ..))]
      · rfl
    · rw [if_neg hab, List.filter_cons, List.filter_cons, ih hs]
      split
      · split
        · rw [List.orderedInsert_cons, if_neg hab]
        · rfl
      · rfl

include htotal

/-- The first element is sorted into the others, before all that it is level
with.  This is where the sort is stable. -/
theorem mergeSort_cons_eq (a : α) (l : List α) : (a :: l).mergeSort le =
    (l.mergeSort le).orderedInsert (fun x y => le x y = true) a := by
  obtain ⟨l₁, l₂, hcons, hl, hbefore⟩ := List.mergeSort_cons htrans htotal a l
  have hafter : ∀ b ∈ l₂, le a b = true := by
    have hsorted := List.pairwise_mergeSort htrans htotal (a :: l)
    rw [hcons, List.pairwise_append, List.pairwise_cons] at hsorted
    exact hsorted.2.1.1
  have hpass : ∀ b ∈ l₁, decide (¬le a b = true) = true := fun b hb => by
    simpa using hbefore b hb
  rw [List.orderedInsert_eq_take_drop, hcons, hl, List.takeWhile_append_of_pos hpass,
    List.dropWhile_append_of_pos hpass]
  cases l₂ with
  | nil => simp
  | cons b l₂ => simp [hafter b]

/-- So a list is sorted by inserting its elements one by one, the last one
first. -/
theorem mergeSort_eq_insertionSort (l : List α) :
    l.mergeSort le = l.insertionSort fun x y => le x y = true := by
  induction l with
  | nil => rw [List.mergeSort_nil, List.insertionSort_nil]
  | cons a l ih => rw [mergeSort_cons_eq htrans htotal, List.insertionSort_cons, ih]

/-- An element that no other comes after stays behind the others. -/
theorem mergeSort_concat_last {x : α} {l : List α} (h : ∀ a ∈ l, le a x = true) :
    (l ++ [x]).mergeSort le = l.mergeSort le ++ [x] := by
  induction l with
  | nil => rw [List.nil_append, List.mergeSort_singleton, List.mergeSort_nil, List.nil_append]
  | cons a l ih =>
    obtain ⟨ha, hl⟩ := List.forall_mem_cons.1 h
    rw [List.cons_append, mergeSort_cons_eq htrans htotal, ih hl, mergeSort_cons_eq htrans htotal]
    induction l.mergeSort le with
    | nil => simp [ha]
    | cons b s hs =>
      rw [List.cons_append, List.orderedInsert_cons, List.orderedInsert_cons, hs]
      split <;> rfl

/-- **Sorting leaves nothing open** where no two elements are level: it does not
matter in which order they were before. -/
theorem mergeSort_eq_of_perm {l l' : List α} (h : l.Perm l')
    (hlevel : ∀ a ∈ l, ∀ b ∈ l, le a b = true → le b a = true → a = b) :
    l.mergeSort le = l'.mergeSort le := by
  have hsorted : (l.mergeSort le).Perm (l'.mergeSort le) :=
    (List.mergeSort_perm l le).trans (h.trans (List.mergeSort_perm l' le).symm)
  refine List.Perm.eq_of_pairwise (fun a b ha hb => ?_) (List.pairwise_mergeSort htrans htotal l)
    (List.pairwise_mergeSort htrans htotal l') hsorted
  exact hlevel a (List.mem_mergeSort.1 ha) b (h.mem_iff.2 (List.mem_mergeSort.1 hb))

/-- **Sorting what is kept is keeping of what is sorted**, also among elements
that are level.  This is where the stability of the sort comes in: a filter does
not change the order of those. -/
theorem mergeSort_filter (keep : α → Bool) (l : List α) :
    (l.filter keep).mergeSort le = (l.mergeSort le).filter keep := by
  induction l with
  | nil => rw [List.filter_nil, List.mergeSort_nil, List.filter_nil]
  | cons a l ih =>
    rw [mergeSort_cons_eq htrans htotal, filter_orderedInsert htrans keep a
      (List.pairwise_mergeSort htrans htotal l), List.filter_cons, ← ih]
    split
    · rw [mergeSort_cons_eq htrans htotal]
    · rfl

/-- Elements that are level stay in the order they were in. -/
theorem pairwise_mergeSort_level {R : α → α → Prop} {l : List α} (h : l.Pairwise R) :
    (l.mergeSort le).Pairwise fun a b => le a b = true ∧ (le b a = true → R a b) := by
  induction l with
  | nil =>
    rw [List.mergeSort_nil]
    exact .nil
  | cons a l ih =>
    obtain ⟨ha, hl⟩ := List.pairwise_cons.1 h
    obtain ⟨l₁, l₂, hcons, hsplit, hbefore⟩ := List.mergeSort_cons htrans htotal a l
    have hsorted := List.pairwise_mergeSort htrans htotal (a :: l)
    rw [hcons, List.pairwise_append, List.pairwise_cons] at hsorted
    have hrest := ih hl
    rw [hsplit, List.pairwise_append] at hrest
    obtain ⟨h₁, h₂, h₁₂⟩ := hrest
    rw [hcons, List.pairwise_append, List.pairwise_cons]
    refine ⟨h₁, ⟨fun b hb => ⟨hsorted.2.1.1 b hb, fun _ => ha b ?_⟩, h₂⟩, fun b hb c hc => ?_⟩
    · exact List.mem_mergeSort.1 (hsplit ▸ List.mem_append_right l₁ hb)
    · rcases List.mem_cons.1 hc with rfl | hc
      · refine ⟨hsorted.2.2 b hb c (List.mem_cons_self ..), fun hcb => ?_⟩
        have hno := hbefore b hb
        rw [hcb] at hno
        cases hno
      · exact h₁₂ b hb c hc

end Sorting

end LedgerRules
