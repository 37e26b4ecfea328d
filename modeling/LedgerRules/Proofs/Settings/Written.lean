/-
# What is written of a document, and what is read of that

`Config.save` writes a `SettingsFile`: in each object the members that settings
know, in the order in which they are declared, and behind them the flattened map
of the others, whose order is open (`MemberOrder`).  So a document has many
written forms (`Written`), and which one it is makes no difference to a reader:
all of them are read as the document (`Written.ofJson?`), and settled they are
one value (`Written.settle`, `canonical`), since no key stands twice in an
object.

Doubles need not be read as they were written.  What comes back of a written
form is a written form of the document whose unknown members are what comes back
of them (`Rereads`, `Settings.reread_of_written`); the settings in it come back
as they are.  So a saved text is told by that document
(`Settings.exists_saved`).
-/

import LedgerRules.Proofs.Settings.Document

namespace LedgerRules
namespace SettingsDocument

/-! ### Known members in front of others -/

section Members

variable {p : Spot} {d : SettingsDocument} {known others : List (String × Json)} {key : String}

/-- The unknown members have no key that settings know. -/
theorem Tidy.ne_of_perm (hd : d.Tidy) (hothers : others.Perm (p.others d)) (h : key ∈ p.own) :
    ∀ e ∈ others, e.1 ≠ key := fun e he hk =>
  hd.foreign p e (hothers.mem_iff.1 he) (hk ▸ h)

/-- A member that settings know is read from the known ones, because none of the
others has its key. -/
theorem Tidy.own?_append {α : Type} {value : α} {read? : Json → Option α} (hd : d.Tidy)
    (hothers : others.Perm (p.others d)) (h : key ∈ p.own) :
    own? (known ++ others) key value read? = own? known key value read? := by
  have hnone : others.filter (·.1 == key) = [] :=
    List.filter_eq_nil_iff.2 fun e he => by simpa using hd.ne_of_perm hothers h e he
  unfold own?
  rw [List.filter_append, hnone, List.append_nil]

/-- Settling leaves the unknown members as they are. -/
theorem Tidy.map_settle (hd : d.Tidy) (hothers : others.Perm (p.others d)) :
    (others.map fun (k, v) => (k, Json.settle v)) = others := by
  conv_rhs => rw [← List.map_id others]
  refine List.map_congr_left fun e he => Prod.ext rfl ?_
  exact (hd.settled p e (hothers.mem_iff.1 he)).settle_eq

/-- **The members that settings do not know** are read as they were, in
whichever order they stand.  They are collected in a map, whose order is that of
the keys. -/
theorem Tidy.foreign_append (hd : d.Tidy) (hknown : ∀ e ∈ known, e.1 ∈ p.own)
    (hothers : others.Perm (p.others d)) :
    SettingsDocument.foreign (known ++ others) p.own = p.others d := by
  have hdropped : (known.filter fun e => !p.own.contains e.1) = [] :=
    List.filter_eq_nil_iff.2 fun e he => by simpa using hknown e he
  have hkept : (others.filter fun e => !p.own.contains e.1) = others :=
    List.filter_eq_self.2 fun e he => by simpa using hd.foreign p e (hothers.mem_iff.1 he)
  rw [foreign_eq, List.filter_append, hdropped, hkept, List.nil_append, hd.map_settle hothers]
  exact Json.gather_of_perm hothers (hd.ascending p)

/-- A settled object holds the known members with their values settled, and the
others. -/
theorem Tidy.settle_obj (hd : d.Tidy) (hknown : ∀ e ∈ known, e.1 ∈ p.own)
    (hothers : others.Perm (p.others d)) : (Json.obj (known ++ others)).settle =
      Json.object (p.others d ++ known.map fun (k, v) => (k, v.settle)) := by
  rw [Json.settle_obj_eq, List.map_append, hd.map_settle hothers]
  refine Json.object_congr fun key => ?_
  have hlast := Json.last?_of_perm hothers (hd.ascending p) key
  rw [Json.last?_append, Json.last?_append, hlast, Json.last?_of_pairwise (hd.ascending p),
    Json.last?_map]
  -- A key is known or not, so one of the two is not there.
  by_cases hkey : key ∈ p.own
  · rw [← hlast, Json.last?_eq_none (hd.ne_of_perm hothers hkey), Option.none_or, Option.or_none]
  · have hnone : Json.last? known key = none :=
      Json.last?_eq_none fun e he hk => hkey (hk ▸ hknown e he)
    rw [hnone, Option.map_none, Option.none_or, Option.or_none]

end Members

/-! ### Written forms -/

variable {d d' : SettingsDocument} {p : Spot} {key : String} {j : Json}

/-- The two members that settings know at the top, in the order in which they
are written. -/
def sections (app rules : Json) : List (String × Json) := [("app", app), ("rules", rules)]

/-- They are members that settings know. -/
theorem mem_own_of_mem_sections (app rules : Json) :
    ∀ e ∈ sections app rules, e.1 ∈ Spot.top.own := by
  intro e he
  simp only [sections, List.mem_cons, List.not_mem_nil, or_false] at he
  rcases he with rfl | rfl <;> simp [Spot.own]

/-- To settle them is to settle the sections. -/
theorem map_settle_sections (app rules : Json) :
    ((sections app rules).map fun (k, v) => (k, Json.settle v)) =
      sections app.settle rules.settle := rfl

/-- The section `app` is read from the first of them. -/
theorem own?_sections_app {α : Type} (app rules : Json) (value : α) (read? : Json → Option α) :
    own? (sections app rules) "app" value read? = read? app := rfl

/-- And the section `rules` from the second. -/
theorem own?_sections_rules {α : Type} (app rules : Json) (value : α) (read? : Json → Option α) :
    own? (sections app rules) "rules" value read? = read? rules := rfl

/-- **A written form of a document**: in every object the members that settings
know, in their order, and behind them the others, in any order.  Whatever is
shown of every written form holds of the text that `Config.save` leaves, however
its maps are ordered. -/
inductive Written (d : SettingsDocument) : Json → Prop
  | mk {app rules top : List (String × Json)} (happ : app.Perm d.app.others)
      (hrules : rules.Perm d.rules.others) (htop : top.Perm d.others) :
    Written d (.obj (sections (.obj (d.knownOfApp ++ app)) (.obj (d.knownOfRules ++ rules)) ++ top))

/-- Whatever order is taken, a written form is written: an order only arranges
the members behind the known ones. -/
theorem written_toJson (order : MemberOrder) (d : SettingsDocument) : Written d (d.toJson order) :=
  .mk (order.app.perm _) (order.rules.perm _) (order.top.perm _)

/-- Of the members of `app`, settings know those they write. -/
theorem mem_own_of_mem_knownOfApp (d : SettingsDocument) :
    ∀ e ∈ d.knownOfApp, e.1 ∈ Spot.app.own := by
  intro e he
  simp only [knownOfApp, List.mem_append, List.mem_cons, List.not_mem_nil, or_false,
    Option.mem_toList, Option.map_eq_some_iff] at he
  rcases he with ⟨_, -, rfl⟩ | rfl <;> simp [Spot.own]

/-- So they do of those of `rules`. -/
theorem mem_own_of_mem_knownOfRules (d : SettingsDocument) :
    ∀ e ∈ d.knownOfRules, e.1 ∈ Spot.rules.own := by
  intro e he
  simp only [knownOfRules, List.mem_cons, List.not_mem_nil, or_false] at he
  rcases he with rfl | rfl <;> simp [Spot.own]

/-- What settings write of themselves in `app` are a text and a truth value. -/
theorem forall_knownOfApp {P : Json → Prop} (hstr : ∀ s, P (.str s)) (hbool : ∀ b, P (.bool b))
    (d : SettingsDocument) : ∀ e ∈ d.knownOfApp, P e.2 := by
  intro e he
  simp only [knownOfApp, List.mem_append, List.mem_cons, List.not_mem_nil, or_false,
    Option.mem_toList, Option.map_eq_some_iff] at he
  rcases he with ⟨s, -, rfl⟩ | rfl
  · exact hstr s
  · exact hbool _

/-- And in `rules` they are truth values. -/
theorem forall_knownOfRules {P : Json → Prop} (hbool : ∀ b, P (.bool b)) (d : SettingsDocument) :
    ∀ e ∈ d.knownOfRules, P e.2 := by
  intro e he
  simp only [knownOfRules, List.mem_cons, List.not_mem_nil, or_false] at he
  rcases he with rfl | rfl <;> exact hbool _

/-- A text or a truth value is settled. -/
theorem map_settle_knownOfApp (d : SettingsDocument) :
    (d.knownOfApp.map fun (k, v) => (k, Json.settle v)) = d.knownOfApp := by
  unfold knownOfApp
  cases d.app.user <;> rfl

section Sections

variable {app rules : List (String × Json)} (hd : d.Tidy)

include hd

/-- The section `app` is read as it was written, in whatever order its unknown
members stand. -/
theorem Tidy.app?_append (happ : app.Perm d.app.others) :
    app? (.obj (d.knownOfApp ++ app)) = some d.app := by
  have huser : own? (d.knownOfApp ++ app) "userId" none textOrNull? = some d.app.user := by
    rw [hd.own?_append (p := .app) happ (by decide), knownOfApp]
    cases d.app.user <;> rfl
  have hdemo : own? (d.knownOfApp ++ app) "demoMode" false flag? = some d.app.demo := by
    rw [hd.own?_append (p := .app) happ (by decide), knownOfApp]
    cases d.app.user <;> rfl
  have hothers : SettingsDocument.foreign (d.knownOfApp ++ app) ["userId", "demoMode"] =
      d.app.others := hd.foreign_append (p := .app) (mem_own_of_mem_knownOfApp d) happ
  rw [app?, huser, hdemo, hothers]
  rfl

/-- So is the section `rules`. -/
theorem Tidy.rules?_append (hrules : rules.Perm d.rules.others) :
    rules? (.obj (d.knownOfRules ++ rules)) = some d.rules := by
  have hbackfill : own? (d.knownOfRules ++ rules) "backfillOnCreate" false flag? =
      some d.rules.backfillOnCreate := hd.own?_append (p := .rules) hrules (by decide)
  have hinclude : own? (d.knownOfRules ++ rules) "includeManuallySet" false flag? =
      some d.rules.includeManual := hd.own?_append (p := .rules) hrules (by decide)
  have hothers : SettingsDocument.foreign (d.knownOfRules ++ rules)
      ["backfillOnCreate", "includeManuallySet"] = d.rules.others :=
    hd.foreign_append (p := .rules) (mem_own_of_mem_knownOfRules d) hrules
  rw [rules?, hbackfill, hinclude, hothers]
  rfl

end Sections

/-! ### The value of all written forms -/

/-- The members that a document writes of itself in a spot, its sections
settled.  Together with the unknown ones they are all that the spot has. -/
def Spot.known : Spot → SettingsDocument → List (String × Json)
  | top, d => sections (.object (d.app.others ++ d.knownOfApp))
    (.object (d.rules.others ++ d.knownOfRules))
  | app, d => d.knownOfApp
  | rules, d => d.knownOfRules

/-- They are members of that spot. -/
theorem Spot.mem_own_of_mem_known {e : String × Json} (h : e ∈ p.known d) : e.1 ∈ p.own := by
  cases p with
  | top => exact mem_own_of_mem_sections _ _ e h
  | app => exact mem_own_of_mem_knownOfApp d e h
  | rules => exact mem_own_of_mem_knownOfRules d e h

/-- What a document writes of itself has no other keys. -/
theorem Spot.last?_known (d : SettingsDocument) (hkey : key ∉ p.own) :
    Json.last? (p.known d) key = none :=
  Json.last?_eq_none fun _ he hk => hkey (hk ▸ mem_own_of_mem_known he)

/-- The written forms of a document as one value: every object has its members
in ascending order.  It is what a reader of the text makes of any of them. -/
def canonical (d : SettingsDocument) : Json := Json.object (Spot.top.others d ++ Spot.top.known d)

namespace Written

variable (h : Written d j) (hd : d.Tidy)

include h hd

/-- **All written forms are one value**, so the open order of members is not
seen by who reads the text. -/
theorem settle : j.settle = d.canonical := by
  obtain ⟨happ, hrules, htop⟩ := h
  have happSection := hd.settle_obj (p := .app) (mem_own_of_mem_knownOfApp d) happ
  have hrulesSection := hd.settle_obj (p := .rules) (mem_own_of_mem_knownOfRules d) hrules
  rw [map_settle_knownOfApp] at happSection
  rw [hd.settle_obj (p := .top) (mem_own_of_mem_sections _ _) htop, map_settle_sections,
    happSection, hrulesSection]
  rfl

/-- **A document is read as it was written.** Nothing of it is lost on the way,
and nothing comes in. -/
theorem ofJson? : SettingsDocument.ofJson? j = some d := by
  obtain ⟨happ, hrules, htop⟩ := h
  rw [SettingsDocument.ofJson?, hd.own?_append htop (by decide : "app" ∈ Spot.top.own),
    hd.own?_append htop (by decide : "rules" ∈ Spot.top.own), own?_sections_app,
    own?_sections_rules, hd.app?_append happ, hd.rules?_append hrules]
  exact congrArg (fun others => some (SettingsDocument.mk d.app d.rules others))
    (hd.foreign_append (p := .top) (mem_own_of_mem_sections _ _) htop)

/-- What is written could have been read: it is nested no deeper than what was
read before. -/
theorem readable : j.Readable Json.maxDepth := by
  obtain ⟨happ, hrules, htop⟩ := h
  have hothers : ∀ {p : Spot} {others : List (String × Json)}, others.Perm (p.others d) →
      ∀ e ∈ others, e.2.Readable p.depth := fun hperm e he => hd.readable _ e (hperm.mem_iff.1 he)
  have hknownApp : ∀ e ∈ d.knownOfApp, e.2.Readable 125 := d.forall_knownOfApp (.str _) (.bool _)
  have hknownRules : ∀ e ∈ d.knownOfRules, e.2.Readable 125 := d.forall_knownOfRules (.bool _)
  refine .obj (List.forall_mem_append.2 ⟨fun e he => ?_, hothers (p := .top) htop⟩)
  simp only [sections, List.mem_cons, List.not_mem_nil, or_false] at he
  rcases he with rfl | rfl
  · exact .obj (List.forall_mem_append.2 ⟨hknownApp, hothers (p := .app) happ⟩)
  · exact .obj (List.forall_mem_append.2 ⟨hknownRules, hothers (p := .rules) hrules⟩)

end Written

/-- **In every spot the value holds what the document does not know and what it
knows.** -/
theorem Spot.object?_canonical (p : Spot) (d : SettingsDocument) :
    p.object? d.canonical = some (Json.object (p.others d ++ p.known d)) := by
  cases p with
  | top => rfl
  | app =>
    show d.canonical.get? "app" = _
    rw [canonical, Json.get?_object, Json.last?_append]
    simp [known, sections, others, Json.last?]
  | rules =>
    show d.canonical.get? "rules" = _
    rw [canonical, Json.get?_object, Json.last?_append]
    simp [known, sections, others, Json.last?]

/-- **The value has each unknown member with its own value.** No known member
hides it, because its key is none of theirs. -/
theorem Spot.value?_canonical (hd : d.Tidy) (hkey : key ∉ p.own) :
    p.value? d.canonical key = Json.member? (p.others d) key := by
  unfold value?
  rw [object?_canonical, Option.bind_some, Json.get?_object, Json.last?_append, last?_known d hkey,
    Option.none_or, Json.last?_of_pairwise (hd.ascending p)]

/-! ### What comes back of a document -/

/-- What a document does not know comes back as what another document does not
know, member by member.  Only doubles may have changed on the way. -/
def Rereads (d d' : SettingsDocument) : Prop :=
  ∀ p : Spot, List.Forall₂ Json.RereadAs (p.others d) (p.others d')

/-- The unknown members of a tidy document do come back, and are tidy again,
since their keys are not touched. -/
theorem Tidy.exists_rereads (hd : d.Tidy) : ∃ d', Rereads d d' ∧ d'.Tidy := by
  have hback : ∀ p : Spot, ∃ ms, List.Forall₂
      (fun e e' => Json.RereadAs e e' ∧ e'.2.Readable p.depth) (p.others d) ms := by
    refine fun p => exists_forall₂ fun e he => ?_
    obtain ⟨v, hv, hr⟩ := (hd.readable p e he).exists_reread?
    exact ⟨(e.1, v), ⟨rfl, hv⟩, hr⟩
  choose ms hms using hback
  have hothers : ∀ p : Spot, p.others ⟨{ others := ms .app }, { others := ms .rules }, ms .top⟩ =
      ms p := by
    intro p
    cases p <;> rfl
  refine ⟨⟨{ others := ms .app }, { others := ms .rules }, ms .top⟩, fun p => ?_,
    fun p => ?_, fun p => ?_, fun p => ?_, fun p => ?_⟩ <;> rw [hothers]
  · exact (hms p).imp fun _ _ h => h.1
  · intro e' he'
    obtain ⟨_, -, -, hr⟩ := exists_of_forall₂ (hms p).flip e' he'
    exact hr
  · exact forall_of_forall₂ (fun e e' h (hs : e.2.Settled) => hs.reread h.1.2) (hms p)
      (hd.settled p)
  · rw [map_eq_of_forall₂ (fun _ _ h => h.1.1) (hms p)]
    exact hd.ascending p
  · exact forall_of_forall₂ (fun e e' h (he : e.1 ∉ p.own) => h.1.1 ▸ he) (hms p) (hd.foreign p)

/-- Where the unknown members are steady, they come back as they were. -/
theorem Rereads.others_eq (h : Rereads d d') (hd : d.Tidy)
    (hsteady : ∀ p : Spot, ∀ e ∈ p.others d, e.2.Steady) (p : Spot) : p.others d' = p.others d := by
  have hsame := Json.rereadMembers?_eq_self_iff.2 fun e he =>
    (hd.readable p e he).reread?_eq_self_iff.2 (hsteady p e he)
  rw [Json.rereadMembers?_eq_some_iff.2 (h p)] at hsame
  exact Option.some.inj hsame

/-- Unknown members in another order come back in some order. -/
theorem Rereads.of_perm (h : Rereads d d') {others : List (String × Json)}
    (hothers : others.Perm (p.others d)) : ∃ others', others'.Perm (p.others d') ∧
      List.Forall₂ Json.RereadAs others others' :=
  let ⟨others', hback, hperm⟩ := List.perm_comp_forall₂ hothers (h p)
  ⟨others', hperm, hback⟩

end SettingsDocument

namespace Settings

open SettingsDocument

variable (s : Settings) {d d' : SettingsDocument}

/-- Settings leave the members alone that they do not know. -/
theorem others_document (p : Spot) : p.others (s.document d) = p.others d := by
  cases p <;> rfl

/-- With settings in it a document is told by the members that it does not know. -/
theorem document_congr (h : ∀ p : Spot, p.others d' = p.others d) :
    s.document d' = s.document d := by
  have htop : d'.others = d.others := h .top
  have happ : d'.app.others = d.app.others := h .app
  have hrules : d'.rules.others = d.rules.others := h .rules
  unfold document
  dsimp only
  rw [htop, happ, hrules]

/-- So a tidy document stays tidy with settings in it. -/
theorem tidy_document (hd : d.Tidy) : (s.document d).Tidy := by
  refine ⟨fun p => ?_, fun p => ?_, fun p => ?_, fun p => ?_⟩ <;> rw [others_document]
  · exact hd.readable p
  · exact hd.settled p
  · exact hd.ascending p
  · exact hd.foreign p

/-- **What comes back of a written form is a written form** of what comes back
of the document; the settings in it come back as they are. -/
theorem reread_of_written {j : Json} (h : Rereads d d') (hw : Written (s.document d) j) :
    ∃ j', j.reread? = some j' ∧ Written (s.document d') j' := by
  obtain ⟨happ, hrules, htop⟩ := hw
  obtain ⟨app, happ', hreadApp⟩ := h.of_perm (p := .app) happ
  obtain ⟨rules, hrules', hreadRules⟩ := h.of_perm (p := .rules) hrules
  obtain ⟨top, htop', hreadTop⟩ := h.of_perm (p := .top) htop
  have hknownApp :
      List.Forall₂ Json.RereadAs (s.document d).knownOfApp (s.document d').knownOfApp :=
    .cons ⟨rfl, rfl⟩ (.cons ⟨rfl, rfl⟩ .nil)
  have hknownRules : List.Forall₂ Json.RereadAs (s.document d).knownOfRules
      (s.document d').knownOfRules := .cons ⟨rfl, rfl⟩ (.cons ⟨rfl, rfl⟩ .nil)
  refine ⟨_, Json.reread?_obj (List.rel_append (.cons ⟨rfl, ?_⟩ (.cons ⟨rfl, ?_⟩ .nil)) hreadTop),
    .mk happ' hrules' htop'⟩
  · exact Json.reread?_obj (List.rel_append hknownApp hreadApp)
  · exact Json.reread?_obj (List.rel_append hknownRules hreadRules)

/-- **A saved text is read as what comes back** of the text that it was saved
over, with the settings in it, in whatever order its members were written.  The
doubles among the unknown members are all that can differ. -/
theorem exists_saved (order : MemberOrder) (content : Option String) :
    ∃ d', Rereads (.ofText content) d' ∧ d'.Tidy ∧
      Json.read? (s.save order content) = some (s.document d').canonical ∧
      SettingsDocument.ofText (some (s.save order content)) = s.document d' := by
  have hd : (SettingsDocument.ofText content).Tidy := tidy_ofText content
  obtain ⟨d', hback, hd'⟩ := hd.exists_rereads
  have hwritten := written_toJson order (s.document (.ofText content))
  obtain ⟨j, hj, hw⟩ := s.reread_of_written hback hwritten
  have hraw : Json.readRaw? (s.save order content) = some j :=
    (hwritten.readable (s.tidy_document hd)).readRaw?_pretty.trans hj
  refine ⟨d', hback, hd', ?_, ofText_of_ofJson? hraw (hw.ofJson? (s.tidy_document hd'))⟩
  rw [Json.read?, hraw, Option.map_some, hw.settle (s.tidy_document hd')]

end Settings
end LedgerRules
