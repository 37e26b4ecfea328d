/-
# A value is read as it was written

The compact form of a value has no blanks, so a reader that is in front of a
value takes exactly the characters of that value and stops at the comma or the
bracket behind it (`Reads`).  Every text can be written; of numbers only the
whole ones of 64 bits with sign are looked at here, for a double may come back
as another.  Such a value, if it is not nested too deep, is read from its
compact form as it was (`readRaw?_compact`).
-/

import LedgerRules.Proofs.Json.Tokens

namespace LedgerRules
namespace Json

/-- What follows a value in the compact form: nothing, a comma or a closing
bracket.  With a digit behind it a number would be read as another one. -/
def Ends (rest : List Char) : Prop := ∀ c ∈ rest.head?, c = ',' ∨ c = ']' ∨ c = '\x7d'

/-- What may follow a value in the compact form is no part of a number. -/
theorem Ends.stops {rest : List Char} (h : Ends rest) : Stops rest := by
  intro c hc
  rcases h c hc with rfl | rfl | rfl <;> decide

/-- A whole number of 64 bits with sign has 64 bits. -/
theorem fitsWord_of_fitsSigned {n : Int} (h : Number.fitsSigned n = true) :
    (Number.whole n).FitsWord := by
  unfold Number.fitsSigned at h
  rw [Bool.and_eq_true, decide_eq_true_iff, decide_eq_true_iff] at h
  refine ⟨h.1, ?_⟩
  unfold maxUnsigned
  omega

/-! ### Values -/

/-- A comma or a closing bracket ends a value. -/
theorem ends_cons {c : Char} (h : c = ',' ∨ c = ']' ∨ c = '\x7d') (rest : List Char) :
    Ends (c :: rest) := by
  rintro _ ⟨⟩
  exact h

/-- The value is nested no deeper than `depth`, and its numbers are whole ones
of 64 bits with sign.  Such a value is read from its text as it was written,
with no double on the way. -/
inductive Plain : Nat → Json → Prop
  | null (depth : Nat) : Plain depth null
  | bool (depth : Nat) (b : Bool) : Plain depth (bool b)
  | whole (depth : Nat) {n : Int} (h : Number.fitsSigned n = true) : Plain depth (num (.whole n))
  | str (depth : Nat) (s : String) : Plain depth (str s)
  | arr {depth : Nat} {items : List Json} (h : ∀ j ∈ items, Plain depth j) :
    Plain (depth + 1) (arr items)
  | obj {depth : Nat} {members : List (String × Json)} (h : ∀ e ∈ members, Plain depth e.2) :
    Plain (depth + 1) (obj members)

/-- In front of the value, a reader takes it and stops behind it.  `depth` is
how many brackets may still be opened. -/
def Reads (depth : Nat) (j : Json) : Prop :=
  ∀ fuel rest, 2 * (compactChars j).length ≤ fuel → Ends rest →
    readValue? fuel depth (compactChars j ++ rest) = some (j, rest)

/-! ### The compact form -/

/-- The compact form has no blanks.  Bodies of rules are stored in it. -/
def compactSpacing : Spacing where
  element := []
  value := []
  closing := []
  follows := Ends
  blank_element := blank_nil
  blank_value := blank_nil
  blank_closing := blank_nil
  follows_comma cs := ends_cons (.inl rfl) cs
  follows_closing _ cs h := ends_cons (.inr h) cs

/-- The items of an array behind the first one stand behind commas. -/
theorem compactItems_eq (items : List Json) :
    compactItems items = listed [] (items.map compactChars) := by
  induction items with
  | nil => rfl
  | cons j items ih =>
    rw [compactItems, ih]
    rfl

/-- So do the members of an object. -/
theorem compactMembers_eq (members : List (String × Json)) :
    compactMembers members = listed [] (members.map (compactSpacing.member compactChars)) := by
  induction members with
  | nil => rfl
  | cons e members ih =>
    obtain ⟨k, v⟩ := e
    rw [compactMembers, ih]
    simp [listed, Spacing.member, compactSpacing]

/-- The compact form of a value begins with a character that opens a value. -/
theorem opens_compactChars (j : Json) : Opens (compactChars j) := by
  cases j with
  | null => exact ⟨_, _, rfl, rfl, by decide⟩
  | bool b => cases b <;> exact ⟨_, _, rfl, rfl, by decide⟩
  | num n => exact opens_toText n
  | str => exact ⟨_, _, rfl, rfl, by decide⟩
  | arr items => cases items <;> exact ⟨_, _, rfl, rfl, by decide⟩
  | obj members =>
    cases members with
    | nil => exact ⟨_, _, rfl, rfl, by decide⟩
    | cons e members => exact ⟨_, _, rfl, rfl, by decide⟩

variable {depth : Nat}

/-- An array is read if its items are. -/
theorem reads_arr {items : List Json} (h : ∀ j ∈ items, Reads depth j) :
    Reads (depth + 1) (arr items) := by
  cases items with
  | nil =>
    intro fuel rest hfuel _
    obtain ⟨fuel, rfl⟩ : ∃ n, fuel = n + 1 := ⟨fuel - 1, by simp [compactChars] at hfuel; omega⟩
    rfl
  | cons j items =>
    have hgives : Gives Ends (depth + 1) _ (((j :: items).mapM some).map arr) :=
      compactSpacing.gives_arr (opens_compactChars j) h
    rw [mapM_eq_self_iff.2 fun _ _ => rfl] at hgives
    have hchars : compactChars (arr (j :: items)) = '[' :: ([] ++ (compactChars j ++
        (listed [] (items.map compactChars) ++ ([] ++ [']'])))) := by
      rw [compactChars, compactItems_eq]
      simp
    rw [Reads, hchars]
    exact hgives

/-- An object is read if its values are. -/
theorem reads_obj {members : List (String × Json)} (h : ∀ e ∈ members, Reads depth e.2) :
    Reads (depth + 1) (obj members) := by
  cases members with
  | nil =>
    intro fuel rest hfuel _
    obtain ⟨fuel, rfl⟩ : ∃ n, fuel = n + 1 := ⟨fuel - 1, by simp [compactChars] at hfuel; omega⟩
    rfl
  | cons e members =>
    have hback : (e :: members).mapM (fun x => (some x.2).map (x.1, ·)) = some (e :: members) :=
      mapM_eq_self_iff.2 fun _ _ => rfl
    have hgives : Gives Ends (depth + 1) _ ((some (e :: members)).map obj) :=
      hback ▸ compactSpacing.gives_obj h
    have hchars : compactChars (obj (e :: members)) =
        '\x7b' :: ([] ++ (compactSpacing.member compactChars e ++
          (listed [] (members.map (compactSpacing.member compactChars)) ++ ([] ++ ['\x7d'])))) := by
      obtain ⟨k, v⟩ := e
      rw [compactChars, compactMembers_eq]
      simp [Spacing.member, compactSpacing]
    rw [Reads, hchars]
    exact hgives

/-- **A value is taken exactly**, at any depth that it fits.  It is plain in
that its numbers are whole, so that they come back. -/
theorem Plain.reads {j : Json} (h : Plain depth j) {levels : Nat} (hl : depth ≤ levels) :
    Reads levels j := by
  induction h generalizing levels with
  | null => exact gives_null
  | bool _ b => exact gives_bool b
  | @whole _ n hn =>
    have hgives : Gives Ends levels _ _ := gives_num (fun _ => Ends.stops) (.whole n)
    rw [Number.reread?_whole (fitsWord_of_fitsSigned hn)] at hgives
    exact hgives
  | str _ s => exact gives_str s
  | @arr depth items h ih =>
    obtain ⟨levels, rfl⟩ : ∃ n, levels = n + 1 := ⟨levels - 1, by omega⟩
    exact reads_arr fun j hj => ih j hj (by omega)
  | @obj depth members h ih =>
    obtain ⟨levels, rfl⟩ : ∃ n, levels = n + 1 := ⟨levels - 1, by omega⟩
    exact reads_obj fun e he => ih e he (by omega)

/-- **A value is read as it was written.** Rule bodies are kept in this form. -/
theorem Plain.readRaw?_compact {j : Json} (h : Plain depth j) (hd : depth ≤ maxDepth) :
    readRaw? (compact j) = some j := by
  have hread := h.reads hd (2 * (compactChars j).length + 2) [] (by omega) (fun _ h => nomatch h)
  rw [List.append_nil] at hread
  unfold readRaw? compact
  rw [String.toList_ofList]
  dsimp only
  rw [hread]
  rfl

end Json
end LedgerRules
