/-
# What is read of a text of settings

`read_settings` gives a `SettingsFile`: the members of `AppSettings` and
`RuleSettings`, which have names and defaults of their own, and at each of the
three levels a flattened map of what is not known.  The text is understood
(`Understood`) if it is an object and every member that settings know stands
there at most once and with its type; anything else is read as the default of
the whole, with nothing in the maps (`ofText_cases`).

What a document does not know at one of the levels (`Spot`) is what stands there
in the text, settled (`others_cases`, `Spot.value?_settle`): each key once with
its last value, in ascending order (`Tidy`).
-/

import LedgerRules.Proofs.Json.Steady
import LedgerRules.Settings

namespace LedgerRules
namespace SettingsDocument

/-! ### Spots -/

/-- The objects of settings that may have members which settings do not know:
the whole file and its two sections. -/
inductive Spot
  | top
  | app
  | rules

namespace Spot

/-- The members of a spot that settings do know.  All others are carried along
as they are. -/
def own : Spot → List String
  | top => ["app", "rules"]
  | app => ["userId", "demoMode"]
  | rules => ["backfillOnCreate", "includeManuallySet"]

/-- The object in its spot, if there is something under that key.  It need not
be an object in a file that cannot be understood. -/
def object? : Spot → Json → Option Json
  | top, j => some j
  | app, j => j.get? "app"
  | rules, j => j.get? "rules"

/-- The value of a key in a spot, if the spot is there and has the key.
Documents are compared by these, not by the order of members. -/
def value? (p : Spot) (j : Json) (key : String) : Option Json := (p.object? j).bind (·.get? key)

/-- The members of a spot that a document does not know, as they were collected
when it was read. -/
def others : Spot → SettingsDocument → List (String × Json)
  | top, d => d.others
  | app, d => d.app.others
  | rules, d => d.rules.others

end Spot

/-! ### Texts that are understood -/

/-- A member that may be left out stands at most once, and its value is as it
should be.  One that stands twice makes a file that cannot be understood. -/
def AtMostOnce (members : List (String × Json)) (key : String) (P : Json → Prop) : Prop :=
  (members.filter (·.1 == key)).length ≤ 1 ∧ ∀ j, (key, j) ∈ members → P j

/-- The section `app` names a user by a text or null, and the demo mode by a
truth value. -/
def AppUnderstood : Json → Prop
  | .obj members => AtMostOnce members "userId" (fun j => j = .null ∨ ∃ s, j = .str s) ∧
    AtMostOnce members "demoMode" fun j => ∃ b, j = .bool b
  | _ => False

/-- The section `rules` has two truth values. -/
def RulesUnderstood : Json → Prop
  | .obj members => AtMostOnce members "backfillOnCreate" (fun j => ∃ b, j = .bool b) ∧
    AtMostOnce members "includeManuallySet" fun j => ∃ b, j = .bool b
  | _ => False

/-- Settings are an object, and all members that settings know are as they
should be. -/
def Understood : Json → Prop
  | .obj members => AtMostOnce members "app" AppUnderstood ∧
    AtMostOnce members "rules" RulesUnderstood
  | _ => False

variable {α : Type} {members : List (String × Json)} {key : String} {value : α}
  {read? : Json → Option α}

/-- What is read of a member is its default, or what its only value is read as. -/
theorem own?_cases {a : α} (h : own? members key value read? = some a) :
    members.filter (·.1 == key) = [] ∧ a = value ∨
      ∃ j, members.filter (·.1 == key) = [(key, j)] ∧ read? j = some a := by
  unfold own? at h
  split at h
  · rename_i hnone
    exact .inl ⟨hnone, (Option.some.inj h).symm⟩
  · rename_i k j hone
    have hk : (k, j) ∈ members.filter (·.1 == key) := hone ▸ List.mem_cons_self
    obtain rfl : k = key := by simpa using (List.mem_filter.1 hk).2
    exact .inr ⟨j, hone, h⟩
  · cases h

/-- A member that settings know is read if it stands at most once, with a value
as it should be. -/
theorem own?_isSome_iff {P : Json → Prop} (hP : ∀ j, (read? j).isSome = true ↔ P j) :
    (own? members key value read?).isSome = true ↔ AtMostOnce members key P := by
  have hmem : ∀ j, (key, j) ∈ members ↔ (key, j) ∈ members.filter (·.1 == key) := by
    simp [List.mem_filter]
  unfold own? AtMostOnce
  split
  · rename_i hnone
    simp [hmem, hnone]
  · rename_i k j hone
    have hk : (k, j) ∈ members.filter (·.1 == key) := hone ▸ List.mem_cons_self
    obtain rfl : k = key := by simpa using (List.mem_filter.1 hk).2
    simp [hmem, hone, hP]
  · rename_i hnone hmore
    refine iff_of_false Bool.false_ne_true fun h => ?_
    match hfilter : members.filter (·.1 == key) with
    | [] => exact hnone hfilter
    | [(k, j)] => exact hmore k j hfilter
    | _ :: _ :: _ =>
      rw [hfilter] at h
      simp at h

/-- A flag is read where it is a truth value; null is none. -/
theorem flag?_isSome_iff (j : Json) : (flag? j).isSome = true ↔ ∃ b, j = .bool b := by
  cases j <;> simp [flag?]

/-- A user is read where it is a text or null. -/
theorem textOrNull?_isSome_iff (j : Json) :
    (textOrNull? j).isSome = true ↔ j = .null ∨ ∃ s, j = .str s := by
  cases j <;> simp [textOrNull?]

/-- Both of two readings are there. -/
theorem isSome_both {β γ : Type} (a : Option α) (b : Option β) (f : α → β → γ) :
    (do let x ← a; let y ← b; return f x y : Option γ).isSome = true ↔
      a.isSome = true ∧ b.isSome = true := by
  cases a <;> cases b <;> simp

/-- The section `app` is read where it is understood. -/
theorem app?_isSome_iff (j : Json) : (app? j).isSome = true ↔ AppUnderstood j := by
  cases j with
  | obj members => exact (isSome_both _ _ _).trans (and_congr
      (own?_isSome_iff textOrNull?_isSome_iff) (own?_isSome_iff flag?_isSome_iff))
  | _ => simp [app?, AppUnderstood]

/-- The section `rules` is read where it is understood. -/
theorem rules?_isSome_iff (j : Json) : (rules? j).isSome = true ↔ RulesUnderstood j := by
  cases j with
  | obj members => exact (isSome_both _ _ _).trans (and_congr
      (own?_isSome_iff flag?_isSome_iff) (own?_isSome_iff flag?_isSome_iff))
  | _ => simp [rules?, RulesUnderstood]

/-- **Settings are read if and only if they are understood.** So one member that
is not as it should be makes the whole file count as empty
(`unwrap_or_default`). -/
theorem ofJson?_isSome_iff (j : Json) : (ofJson? j).isSome = true ↔ Understood j := by
  cases j with
  | obj members => exact (isSome_both _ _ _).trans (and_congr
      (own?_isSome_iff app?_isSome_iff) (own?_isSome_iff rules?_isSome_iff))
  | _ => simp [ofJson?, Understood]

/-! ### Documents -/

/-- The depth that is left for the values in a spot.  A reader opens 127
brackets within each other at most, and those around the spot are among them. -/
def Spot.depth : Spot → Nat
  | .top => 126
  | _ => 125

/-- The members that a document does not know are settled, and could have been
read in their spot.  This holds of all documents that are read from a file. -/
structure Tidy (d : SettingsDocument) : Prop where
  readable : ∀ p : Spot, ∀ e ∈ p.others d, e.2.Readable p.depth
  settled : ∀ p : Spot, ∀ e ∈ p.others d, e.2.Settled
  ascending : ∀ p : Spot, ((p.others d).map Prod.fst).Pairwise (· < ·)
  foreign : ∀ p : Spot, ∀ e ∈ p.others d, e.1 ∉ p.own

/-- The document without members is tidy. -/
theorem tidy_empty : Tidy {} where
  readable p := by cases p <;> exact List.forall_mem_nil _
  settled p := by cases p <;> exact List.forall_mem_nil _
  ascending p := by cases p <;> exact .nil
  foreign p := by cases p <;> exact List.forall_mem_nil _

/-- The members that are not known, settled: they are gathered like those of any
object. -/
theorem foreign_eq (members : List (String × Json)) (own : List String) :
    foreign members own = Json.gather ((members.filter fun e => !own.contains e.1).map
      fun (k, v) => (k, v.settle)) [] := Json.settleMembers_eq _ _

/-- **A member that is not known is found with its value.** The flattened map
has the last value of a repeated key, as the settled object does. -/
theorem member?_foreign (members : List (String × Json)) {own : List String} {key : String}
    (h : key ∉ own) : Json.member? (foreign members own) key =
      (Json.obj members).settle.get? key := by
  have hforeign : (!own.contains key) = true := by simpa using h
  rw [foreign_eq, Json.member?_gather, Json.last?_map, Json.get?_settle_obj,
    Json.last?_filter (p := fun k => !own.contains k) members hforeign]
  exact Option.or_none

/-- The members that are not known stand in ascending order. -/
theorem pairwise_foreign (members : List (String × Json)) (own : List String) :
    ((foreign members own).map Prod.fst).Pairwise (· < ·) := by
  rw [foreign_eq]
  exact Json.pairwise_gather .nil

/-- What is not known is a member with its value settled. -/
theorem exists_of_mem_foreign {own : List String} {e : String × Json}
    (h : e ∈ foreign members own) :
    ∃ v, (e.1, v) ∈ members ∧ e.1 ∉ own ∧ e.2 = v.settle := by
  rw [foreign_eq] at h
  rcases Json.mem_of_mem_gather h with hmem | hmem
  · obtain ⟨e', he', rfl⟩ := List.mem_map.1 hmem
    obtain ⟨hmember, hown⟩ := List.mem_filter.1 he'
    exact ⟨e'.2, hmember, by simpa using hown, rfl⟩
  · cases hmem

/-- A section that is read is left out, or an object whose unknown members are
taken over. -/
theorem section_cases {value : α} {others : α → List (String × Json)} {own : List String}
    (hdefault : others value = [])
    (hread : ∀ {j a}, read? j = some a → ∃ ms, j = .obj ms ∧ others a = foreign ms own) {a : α}
    (h : own? members key value read? = some a) :
    others a = [] ∧ (Json.obj members).settle.get? key = none ∨
      ∃ ms, others a = foreign ms own ∧ (key, .obj ms) ∈ members ∧
        (Json.obj members).settle.get? key = some (Json.obj ms).settle := by
  rw [Json.get?_settle_obj]
  unfold Json.last?
  rcases own?_cases h with ⟨hnone, rfl⟩ | ⟨j, hone, hj⟩
  · exact .inl ⟨hdefault, by rw [hnone]; rfl⟩
  · obtain ⟨ms, rfl, hothers⟩ := hread hj
    have hmem : (key, Json.obj ms) ∈ members.filter (·.1 == key) := hone ▸ List.mem_cons_self
    exact .inr ⟨ms, hothers, (List.mem_filter.1 hmem).1, by rw [hone]; rfl⟩

/-- What the section `app` does not know are the members of its object that are
not its own. -/
theorem others_of_app? {j : Json} {a : AppSection} (h : app? j = some a) :
    ∃ ms, j = .obj ms ∧ a.others = foreign ms Spot.app.own := by
  cases j with
  | obj ms =>
    obtain ⟨user, -, h⟩ := Option.bind_eq_some_iff.1 h
    obtain ⟨demo, -, h⟩ := Option.bind_eq_some_iff.1 h
    cases h
    exact ⟨ms, rfl, rfl⟩
  | _ => cases h

/-- And so it is in the section `rules`. -/
theorem others_of_rules? {j : Json} {r : RulesSection} (h : rules? j = some r) :
    ∃ ms, j = .obj ms ∧ r.others = foreign ms Spot.rules.own := by
  cases j with
  | obj ms =>
    obtain ⟨backfill, -, h⟩ := Option.bind_eq_some_iff.1 h
    obtain ⟨includeManual, -, h⟩ := Option.bind_eq_some_iff.1 h
    cases h
    exact ⟨ms, rfl, rfl⟩
  | _ => cases h

/-- **The unknown members of a document** are those of the object in their spot;
where there is no such object there are none. -/
theorem others_cases {raw : Json} {d : SettingsDocument} (h : ofJson? raw = some d) (p : Spot) :
    p.others d = [] ∧ p.object? raw.settle = none ∨
      ∃ ms, p.others d = foreign ms p.own ∧ p.object? raw.settle = some (Json.obj ms).settle ∧
        (raw.Readable Json.maxDepth → ∀ e ∈ ms, e.2.Readable p.depth) := by
  cases raw with
  | obj members =>
    obtain ⟨app, happ, h⟩ := Option.bind_eq_some_iff.1 h
    obtain ⟨rules, hrules, h⟩ := Option.bind_eq_some_iff.1 h
    cases h
    have hinner : ∀ {key ms}, (key, Json.obj ms) ∈ members →
        (Json.obj members).Readable Json.maxDepth → ∀ e ∈ ms, e.2.Readable 125 := by
      intro key ms hmem hr
      cases hr with
      | obj hall =>
        cases hall _ hmem with
        | obj hms => exact hms
    cases p with
    | top =>
      refine .inr ⟨members, rfl, rfl, fun hr => ?_⟩
      cases hr with
      | obj hall => exact hall
    | app =>
      rcases section_cases rfl others_of_app? happ with hnone | ⟨ms, hothers, hmem, hobject⟩
      · exact .inl hnone
      · exact .inr ⟨ms, hothers, hobject, hinner hmem⟩
    | rules =>
      rcases section_cases rfl others_of_rules? hrules with hnone | ⟨ms, hothers, hmem, hobject⟩
      · exact .inl hnone
      · exact .inr ⟨ms, hothers, hobject, hinner hmem⟩
  | _ => cases h

/-- What is read of a text is tidy: its members were settled when they were
read, and nested no deeper than the text could be. -/
theorem tidy_of_ofJson? {raw : Json} {d : SettingsDocument} (h : ofJson? raw = some d)
    (hr : raw.Readable Json.maxDepth) : d.Tidy := by
  have hmember : ∀ p : Spot, ∀ e ∈ p.others d,
      ∃ v : Json, v.Readable p.depth ∧ e.1 ∉ p.own ∧ e.2 = v.settle := by
    intro p e he
    rcases others_cases h p with ⟨hnone, -⟩ | ⟨ms, hothers, -, hms⟩
    · rw [hnone] at he
      cases he
    · rw [hothers] at he
      obtain ⟨v, hv, hown, heq⟩ := exists_of_mem_foreign he
      exact ⟨v, hms hr _ hv, hown, heq⟩
  refine ⟨fun p e he => ?_, fun p e he => ?_, fun p => ?_, fun p e he => ?_⟩
  · obtain ⟨v, hv, -, heq⟩ := hmember p e he
    exact heq ▸ hv.settle.1
  · obtain ⟨v, hv, -, heq⟩ := hmember p e he
    exact heq ▸ hv.settle.2
  · rcases others_cases h p with ⟨hnone, -⟩ | ⟨ms, hothers, -, -⟩
    · rw [hnone]
      exact .nil
    · rw [hothers]
      exact pairwise_foreign ms p.own
  · obtain ⟨v, -, hown, -⟩ := hmember p e he
    exact hown

namespace Spot

variable {p : Spot} {d : SettingsDocument}

/-- **What is read has each unknown member with the value it has in the text**,
for any text that is understood. -/
theorem value?_settle {raw : Json} (h : ofJson? raw = some d) (hkey : key ∉ p.own) :
    p.value? raw.settle key = Json.member? (p.others d) key := by
  unfold value?
  rcases others_cases h p with ⟨hnone, hobject⟩ | ⟨ms, hothers, hobject, -⟩
  · rw [hnone, hobject]
    rfl
  · rw [hothers, hobject, member?_foreign ms hkey]
    rfl

end Spot

/-! ### Texts -/

variable {text : String} {raw : Json} {d : SettingsDocument}

/-- A document is read of what is understood, and else is one without members. -/
theorem ofText_cases (content : Option String) :
    (∃ raw, content.bind Json.readRaw? = some raw ∧ ofJson? raw = some (ofText content)) ∨
      (∀ raw, content.bind Json.readRaw? = some raw → ¬Understood raw) ∧ ofText content = {} := by
  unfold ofText
  cases hread : (content.bind Json.readRaw?).bind ofJson? with
  | none =>
    refine .inr ⟨fun raw hraw hunderstood => ?_, rfl⟩
    rw [hraw, Option.bind_some] at hread
    rw [← ofJson?_isSome_iff, hread] at hunderstood
    cases hunderstood
  | some d =>
    obtain ⟨raw, hraw, hd⟩ := Option.bind_eq_some_iff.1 hread
    exact .inl ⟨raw, hraw, hd⟩

/-- A text that can be read and is understood gives the document that is read of
it. -/
theorem ofText_of_ofJson? (hraw : Json.readRaw? text = some raw) (h : ofJson? raw = some d) :
    ofText (some text) = d := by
  simp [ofText, hraw, h]

/-- Of a text that is not understood nothing is read. -/
theorem ofText_of_not_understood
    (h : ∀ raw, Json.readRaw? text = some raw → ¬Understood raw) : ofText (some text) = {} := by
  rcases ofText_cases (some text) with ⟨raw, hraw, hread⟩ | ⟨-, hempty⟩
  · refine absurd ((ofJson?_isSome_iff raw).1 ?_) (h raw hraw)
    rw [hread]
    rfl
  · exact hempty

/-- **What is read of any text is tidy**, one that is not understood included,
as that is read as nothing. -/
theorem tidy_ofText (content : Option String) : (ofText content).Tidy := by
  rcases ofText_cases content with ⟨raw, hraw, hread⟩ | ⟨-, hempty⟩
  · obtain ⟨text, -, hraw⟩ := Option.bind_eq_some_iff.1 hraw
    exact tidy_of_ofJson? hread (Json.readable_of_readRaw? hraw)
  · rw [hempty]
    exact tidy_empty

/-- The unknown members of a text are those of its document. -/
theorem value?_settle_eq_some_iff (hd : d.Tidy) (hread : ofJson? raw = some d) {p : Spot}
    (hkey : key ∉ p.own) {v : Json} :
    p.value? raw.settle key = some v ↔ (key, v) ∈ p.others d := by
  rw [Spot.value?_settle hread hkey]
  exact ⟨Json.mem_of_member?, Json.member?_of_mem ((hd.ascending p).imp ne_of_lt)⟩

end SettingsDocument
end LedgerRules
