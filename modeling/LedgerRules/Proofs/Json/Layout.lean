/-
# A value is read from its lines

The form over several lines has line breaks and indentation between its tokens,
which a reader passes over.  So it takes the value as it does from the compact
form, but for the numbers: each comes back as its own text is read (`reread?`),
and where the text of one is not read, neither is the value
(`Readable.readRaw?_pretty`).

What a reader gives is nested no deeper than it reads, and its numbers have 64
bits (`readable_of_readRaw?`).
-/

import LedgerRules.Proofs.Json.Reread

namespace LedgerRules
namespace Json

/-! ### What a reader gives -/

/-- The value is nested no deeper than `depth`, and its numbers have 64 bits.
Every value that was read from a text is readable. -/
inductive Readable : Nat → Json → Prop
  | null (depth : Nat) : Readable depth null
  | bool (depth : Nat) (b : Bool) : Readable depth (bool b)
  | num (depth : Nat) {n : Number} (h : n.FitsWord) : Readable depth (num n)
  | str (depth : Nat) (s : String) : Readable depth (str s)
  | arr {depth : Nat} {items : List Json} (h : ∀ j ∈ items, Readable depth j) :
    Readable (depth + 1) (arr items)
  | obj {depth : Nat} {members : List (String × Json)} (h : ∀ e ∈ members, Readable depth e.2) :
    Readable (depth + 1) (obj members)

/-- With this fuel, readers give what is readable.  The three readers call each
other, so it is shown of all three at once. -/
structure GivesReadable (fuel : Nat) : Prop where
  value : ∀ {depth cs j rest}, readValue? fuel depth cs = some (j, rest) → Readable depth j
  items : ∀ {depth done cs js rest}, readItems? fuel depth done cs = some (js, rest) →
    (∀ j ∈ done, Readable depth j) → ∀ j ∈ js, Readable depth j
  members : ∀ {depth done cs ms rest}, readMembers? fuel depth done cs = some (ms, rest) →
    (∀ e ∈ done, Readable depth e.2) → ∀ e ∈ ms, Readable depth e.2

namespace GivesReadable

variable {fuel depth : Nat}

/-- A value that is read with one more step of fuel is readable, if what is read
with less is. -/
theorem value_succ (ih : GivesReadable fuel) {cs : List Char} {j : Json} {rest : List Char}
    (h : readValue? (fuel + 1) depth cs = some (j, rest)) : Readable depth j := by
  rw [readValue?] at h
  split at h
  · cases h
  · rename_i c cs' hcs
    split_ifs at h with hnull htrue hfalse hquote harray hobject
    · obtain ⟨_, -, heq⟩ := Option.map_eq_some_iff.1 h
      exact (Prod.mk.inj heq).1 ▸ .null depth
    · obtain ⟨_, -, heq⟩ := Option.map_eq_some_iff.1 h
      exact (Prod.mk.inj heq).1 ▸ .bool depth true
    · obtain ⟨_, -, heq⟩ := Option.map_eq_some_iff.1 h
      exact (Prod.mk.inj heq).1 ▸ .bool depth false
    · obtain ⟨_, -, heq⟩ := Option.map_eq_some_iff.1 h
      exact (Prod.mk.inj heq).1 ▸ .str depth _
    · cases depth with
      | zero => cases h
      | succ depth =>
        dsimp only at h
        split at h
        · cases h
          exact .arr (List.forall_mem_nil _)
        · obtain ⟨⟨js, rest'⟩, hread, heq⟩ := Option.map_eq_some_iff.1 h
          cases heq
          exact .arr (ih.items hread (List.forall_mem_nil _))
    · cases depth with
      | zero => cases h
      | succ depth =>
        dsimp only at h
        split at h
        · cases h
          exact .obj (List.forall_mem_nil _)
        · obtain ⟨⟨ms, rest'⟩, hread, heq⟩ := Option.map_eq_some_iff.1 h
          cases heq
          exact .obj (ih.members hread (List.forall_mem_nil _))
    · obtain ⟨⟨n, rest'⟩, hread, heq⟩ := Option.map_eq_some_iff.1 h
      cases heq
      exact .num depth (fitsWord_of_readNumber? hread)

/-- And so are the items of an array. -/
theorem items_succ (ih : GivesReadable fuel) {done js : List Json} {cs rest : List Char}
    (h : readItems? (fuel + 1) depth done cs = some (js, rest))
    (hdone : ∀ j ∈ done, Readable depth j) : ∀ j ∈ js, Readable depth j := by
  rw [readItems?] at h
  split at h
  · cases h
  · rename_i j cs' hj
    have hmore : ∀ i ∈ j :: done, Readable depth i :=
      List.forall_mem_cons.2 ⟨ih.value hj, hdone⟩
    split at h
    · exact ih.items h hmore
    · cases h
      exact fun i hi => hmore i (List.mem_reverse.1 hi)
    · cases h

/-- And so are the members of an object. -/
theorem members_succ (ih : GivesReadable fuel) {done ms : List (String × Json)}
    {cs rest : List Char} (h : readMembers? (fuel + 1) depth done cs = some (ms, rest))
    (hdone : ∀ e ∈ done, Readable depth e.2) : ∀ e ∈ ms, Readable depth e.2 := by
  rw [readMembers?] at h
  split at h
  · split at h
    · cases h
    · split at h
      · split at h
        · cases h
        · rename_i j cs' hj
          have hmore : ∀ key : String, ∀ e ∈ (key, j) :: done, Readable depth e.2 :=
            fun key => List.forall_mem_cons.2 ⟨ih.value hj, hdone⟩
          split at h
          · exact ih.members h (hmore _)
          · cases h
            exact fun e he => hmore _ e (List.mem_reverse.1 he)
          · cases h
      · cases h
  · cases h

end GivesReadable

/-- What readers give is readable, whatever the fuel. -/
theorem givesReadable (fuel : Nat) : GivesReadable fuel := by
  induction fuel with
  | zero => exact ⟨nofun, nofun, nofun⟩
  | succ fuel ih => exact ⟨ih.value_succ, ih.items_succ, ih.members_succ⟩

/-- **What is read of a text is readable**: its numbers are such as a reader
gives, and its depth is one that a reader goes to. -/
theorem readable_of_readRaw? {text : String} {j : Json} (h : readRaw? text = some j) :
    Readable maxDepth j := by
  unfold readRaw? at h
  dsimp only at h
  split at h
  · rename_i j' rest hread
    split at h
    · cases h
      exact (givesReadable _).value hread
    · cases h
  · cases h

/-! ### What comes back of a value -/

mutual

/-- The value with every number as its text is read, if all of them are.
Everything but a number comes back as it was. -/
def reread? : Json → Option Json
  | num n => n.reread?.map num
  | arr items => (rereadItems? items).map arr
  | obj members => (rereadMembers? members).map obj
  | j => some j

/-- The items one after the other.  If one of them cannot be read, nothing is.
-/
def rereadItems? : List Json → Option (List Json)
  | [] => some []
  | j :: rest => (reread? j).bind fun j => (rereadItems? rest).map (j :: ·)

/-- The members one after the other, each under its key. -/
def rereadMembers? : List (String × Json) → Option (List (String × Json))
  | [] => some []
  | (k, v) :: rest => (reread? v).bind fun v => (rereadMembers? rest).map ((k, v) :: ·)

end

/-- In front of the lines of the value, a reader takes what comes back of it and
stops behind them.  Fuel is measured by the text, twice its length, so that the
induction has enough for every part. -/
def ReadsLines (levels : Nat) (j : Json) : Prop :=
  ∀ depth fuel rest, 2 * (prettyChars depth j).length ≤ fuel → Stops rest →
    readValue? fuel levels (prettyChars depth j ++ rest) = (reread? j).map (·, rest)

/-! ### The lines -/

/-- The end of a line with the blanks of the next one is blank. -/
theorem blank_newline (depth : Nat) : Blank (newline depth) := by
  intro c hc
  rcases List.mem_cons.1 hc with rfl | hc
  · rfl
  · rw [List.eq_of_mem_replicate hc]
    rfl

/-- A comma, a closing bracket and the end of a line end a number. -/
theorem stops_cons {c : Char} (h : c = ',' ∨ c = '\n' ∨ c = ']' ∨ c = '\x7d') (cs : List Char) :
    Stops (c :: cs) := by
  rintro _ ⟨⟩
  rcases h with rfl | rfl | rfl | rfl <;> decide

/-- Inside `depth` brackets every element is on a line of its own, and so is the
closing bracket.  This is how settings are laid out. -/
def lineSpacing (depth : Nat) : Spacing where
  element := newline (depth + 1)
  value := [' ']
  closing := newline depth
  follows := Stops
  blank_element := blank_newline _
  blank_value := List.forall_mem_singleton.2 rfl
  blank_closing := blank_newline _
  follows_comma cs := stops_cons (.inl rfl) cs
  follows_closing _ _ _ := stops_cons (.inr (.inl rfl)) _

/-- The items of an array behind the first one stand on lines of their own. -/
theorem prettyItems_eq (depth : Nat) (items : List Json) :
    prettyItems depth items = listed (newline depth) (items.map (prettyChars depth)) := by
  induction items with
  | nil => rfl
  | cons j items ih =>
    rw [prettyItems, ih]
    simp [listed]

/-- So do the members of an object, each as its key, a colon and a blank, and
its value. -/
theorem prettyMembers_eq (depth : Nat) (members : List (String × Json)) :
    prettyMembers (depth + 1) members = listed (newline (depth + 1))
      (members.map ((lineSpacing depth).member (prettyChars (depth + 1)))) := by
  induction members with
  | nil => rfl
  | cons e members ih =>
    obtain ⟨k, v⟩ := e
    rw [prettyMembers, ih]
    simp [listed, Spacing.member, lineSpacing]

/-- The lines of a value begin with a character that opens a value. -/
theorem opens_prettyChars (depth : Nat) (j : Json) : Opens (prettyChars depth j) := by
  cases j with
  | null => exact ⟨_, _, rfl, rfl, by decide⟩
  | bool b => cases b <;> exact ⟨_, _, rfl, rfl, by decide⟩
  | num n => exact opens_toText n
  | str => exact ⟨_, _, rfl, rfl, by decide⟩
  | arr items => cases items <;> exact ⟨_, _, rfl, rfl, by decide⟩
  | obj members =>
    cases members with
    | nil => exact ⟨_, _, rfl, rfl, by decide⟩
    | cons e members => exact ⟨_, _, rfl, rfl, by decide⟩

/-- Items come back one by one. -/
theorem rereadItems?_eq (items : List Json) : rereadItems? items = items.mapM reread? := by
  induction items with
  | nil => rfl
  | cons j items ih => rw [rereadItems?, mapM_cons_eq, ih]

/-- Members come back one by one, under their keys. -/
theorem rereadMembers?_eq (members : List (String × Json)) :
    rereadMembers? members = members.mapM fun e => (reread? e.2).map (e.1, ·) := by
  induction members with
  | nil => rfl
  | cons e members ih =>
    obtain ⟨k, v⟩ := e
    rw [rereadMembers?, mapM_cons_eq, ih]
    cases reread? v <;> rfl

variable {levels : Nat}

/-- An array is read if its items are. -/
theorem readsLines_arr {items : List Json} (h : ∀ j ∈ items, ReadsLines levels j) :
    ReadsLines (levels + 1) (arr items) := by
  intro depth
  cases items with
  | nil =>
    intro fuel rest hfuel _
    obtain ⟨fuel, rfl⟩ : ∃ n, fuel = n + 1 := ⟨fuel - 1, by simp [prettyChars] at hfuel; omega⟩
    rfl
  | cons j items =>
    have hgives : Gives Stops (levels + 1) _ (((j :: items).mapM reread?).map arr) :=
      (lineSpacing depth).gives_arr (opens_prettyChars (depth + 1) j) fun x hx => h x hx (depth + 1)
    have hchars : prettyChars depth (arr (j :: items)) =
        '[' :: (newline (depth + 1) ++ (prettyChars (depth + 1) j ++
          (listed (newline (depth + 1)) (items.map (prettyChars (depth + 1))) ++
            (newline depth ++ [']'])))) := by
      rw [prettyChars, prettyItems_eq]
      simp
    rw [hchars, reread?, rereadItems?_eq]
    exact hgives

/-- An object is read if its values are. -/
theorem readsLines_obj {members : List (String × Json)}
    (h : ∀ e ∈ members, ReadsLines levels e.2) : ReadsLines (levels + 1) (obj members) := by
  intro depth
  cases members with
  | nil =>
    intro fuel rest hfuel _
    obtain ⟨fuel, rfl⟩ : ∃ n, fuel = n + 1 := ⟨fuel - 1, by simp [prettyChars] at hfuel; omega⟩
    rfl
  | cons e members =>
    have hgives : Gives Stops (levels + 1) _
        (((e :: members).mapM fun x => (reread? x.2).map (x.1, ·)).map obj) :=
      (lineSpacing depth).gives_obj fun x hx => h x hx (depth + 1)
    have hchars : prettyChars depth (obj (e :: members)) =
        '\x7b' :: (newline (depth + 1) ++ ((lineSpacing depth).member (prettyChars (depth + 1)) e ++
          (listed (newline (depth + 1))
            (members.map ((lineSpacing depth).member (prettyChars (depth + 1)))) ++
              (newline depth ++ ['\x7d'])))) := by
      obtain ⟨k, v⟩ := e
      rw [prettyChars, prettyMembers_eq]
      simp [Spacing.member, lineSpacing]
    rw [hchars, reread?, rereadMembers?_eq]
    exact hgives

/-- **A value is read as it comes back**, at any depth that it fits.  The
induction is over the value, with the depth at which it is laid out left free.
-/
theorem Readable.readsLines {depth : Nat} {j : Json} (h : Readable depth j) {levels : Nat}
    (hl : depth ≤ levels) : ReadsLines levels j := by
  induction h generalizing levels with
  | null => exact fun _ => gives_null
  | bool _ b => exact fun _ => gives_bool b
  | @num _ n hn => exact fun _ => gives_num (fun _ h => h) n
  | str _ s => exact fun _ => gives_str s
  | @arr inner items h ih =>
    obtain ⟨levels, rfl⟩ : ∃ n, levels = n + 1 := ⟨levels - 1, by omega⟩
    exact readsLines_arr fun j hj => ih j hj (by omega)
  | @obj inner members h ih =>
    obtain ⟨levels, rfl⟩ : ∃ n, levels = n + 1 := ⟨levels - 1, by omega⟩
    exact readsLines_obj fun e he => ih e he (by omega)

/-- **The lines of a value are read as what comes back of it.** Settings are
written in this form, and read in it the next time. -/
theorem Readable.readRaw?_pretty {j : Json} (h : Readable maxDepth j) :
    readRaw? (pretty j) = reread? j := by
  have hread := h.readsLines (Nat.le_refl _) 0 (2 * (prettyChars 0 j).length + 2) [] (by omega)
    stops_nil
  rw [List.append_nil] at hread
  unfold readRaw? pretty
  rw [String.toList_ofList]
  dsimp only
  rw [hread]
  cases reread? j <;> rfl

end Json
end LedgerRules
