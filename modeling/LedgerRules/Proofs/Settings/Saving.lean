/-
# What saving settings keeps

`Config.save`: "Preserves other settings this crate doesn't manage". Settings
are saved over a text with members that they do not know: at the top, in `app`
and in `rules`.  How much of these is kept is a matter of the text
(`Settings.saving_keeps_foreign_iff`).

* Where the text is understood, they are written as they were read.  A reader of
  the new text finds each with its value if and only if all doubles in them come
  back from their texts.
* Where it is not, because it is no JSON or because one of the members that
  settings do know is of another type or stands twice, none of them is kept.

What a reader finds in the new text is the value of a document
(`Settings.exists_saved`); what is left to see is which value stands where
before and after (`Spot.value?_settle`, `Spot.value?_canonical`).
-/

import LedgerRules.Proofs.Settings.Written

namespace LedgerRules
namespace Settings

open SettingsDocument

/-- All unknown members are found in a later document with the values they had,
in their spots.  Where they stand among the others is left open. -/
def KeepsForeign (before after : Json) : Prop :=
  ∀ (p : Spot) (key : String) (v : Json), key ∉ p.own → p.value? before key = some v →
    p.value? after key = some v

/-- The doubles in all unknown members come back from their texts.  Every other
value always does. -/
def ForeignSteady (before : Json) : Prop :=
  ∀ (p : Spot) (key : String) (v : Json), key ∉ p.own → p.value? before key = some v → v.Steady

variable (s : Settings) {raw : Json} {d d' : SettingsDocument}

/-- The members that a text has and settings do not know are those of its
document, so they are steady in the one if and only if they are in the other. -/
theorem foreignSteady_iff (hd : d.Tidy) (hread : ofJson? raw = some d) :
    ForeignSteady raw.settle ↔ ∀ p : Spot, ∀ e ∈ p.others d, e.2.Steady := by
  constructor
  · intro h p e he
    have hkey := hd.foreign p e he
    exact h p e.1 e.2 hkey ((value?_settle_eq_some_iff hd hread hkey).2 he)
  · intro h p key v hkey hv
    exact h p (key, v) ((value?_settle_eq_some_iff hd hread hkey).1 hv)

/-- The value of a document with settings in it has the unknown members of the
document. -/
theorem value?_document (hd : d.Tidy) {p : Spot} {key : String} (hkey : key ∉ p.own) :
    p.value? (s.document d).canonical key = Json.member? (p.others d) key := by
  rw [Spot.value?_canonical (s.tidy_document hd) hkey, others_document]

/-- Where the unknown members are found with their values after they were
written and read, they are steady. -/
theorem steady_of_kept (hd : d.Tidy) (hd' : d'.Tidy) (hback : Rereads d d')
    (hkept : ∀ p : Spot, ∀ e ∈ p.others d, p.value? (s.document d').canonical e.1 = some e.2) :
    ∀ p : Spot, ∀ e ∈ p.others d, e.2.Steady := by
  intro p e he
  obtain ⟨e', he', hkey, hv⟩ := exists_of_forall₂ (hback p) e he
  have hsame := hkept p e he
  have hmember := Json.member?_of_mem ((hd'.ascending p).imp ne_of_lt) he'
  -- The value that stands there afterwards is what came back of the one before.
  rw [s.value?_document hd' (hd.foreign p e he), ← hkey, hmember] at hsame
  refine (hd.readable p e he).reread?_eq_self_iff.1 ?_
  rw [hv, hsame]

/-- **All that is not known is kept if and only if its doubles are**, where the
text is understood.  Every other value comes back from its text as it was. -/
theorem keepsForeign_iff (hd : d.Tidy) (hd' : d'.Tidy) (hread : ofJson? raw = some d)
    (hback : Rereads d d') :
    KeepsForeign raw.settle (s.document d').canonical ↔ ForeignSteady raw.settle := by
  rw [foreignSteady_iff hd hread]
  constructor
  · intro hkept
    refine s.steady_of_kept hd hd' hback fun p e he => ?_
    have hkey := hd.foreign p e he
    exact hkept p e.1 e.2 hkey ((value?_settle_eq_some_iff hd hread hkey).2 he)
  · intro hsteady p key v hkey hv
    rw [s.value?_document hd' hkey, hback.others_eq hd hsteady p,
      ← Spot.value?_settle hread hkey, hv]

/-- **What saving keeps.** The text that settings are saved over may be any, and
the members that they do not know may be written in any order.

* Where the text is understood, a reader of the new text finds all members that
  settings do not know with the values they had if and only if all doubles in
  them come back from their texts.
* Where it is not understood, a reader of the new text finds none of them. -/
theorem saving_keeps_foreign_iff (s : Settings) (order : MemberOrder) (text : String) :
    ∃ saved, s.saveOver? order (.text text) = some saved ∧
      (∀ raw, Json.readRaw? text = some raw → Understood raw →
        ((∃ after, Json.read? saved = some after ∧ KeepsForeign raw.settle after) ↔
          ForeignSteady raw.settle)) ∧
      ((∀ raw, Json.readRaw? text = some raw → ¬Understood raw) →
        ∃ after, Json.read? saved = some after ∧
          ∀ (p : Spot) (key : String), key ∉ p.own → p.value? after key = none) := by
  obtain ⟨d', hback, hd', hsaved, -⟩ := s.exists_saved order (some text)
  refine ⟨_, rfl, fun raw hraw hunderstood => ?_, fun hnot => ?_⟩
  · obtain ⟨d, hread⟩ := Option.isSome_iff_exists.1 ((ofJson?_isSome_iff raw).2 hunderstood)
    have hd : d.Tidy := tidy_of_ofJson? hread (Json.readable_of_readRaw? hraw)
    rw [ofText_of_ofJson? hraw hread] at hback
    rw [← s.keepsForeign_iff hd hd' hread hback, hsaved]
    simp
  · rw [ofText_of_not_understood hnot] at hback
    refine ⟨_, hsaved, fun p key hkey => ?_⟩
    -- Nothing comes back of no members.
    have hnone : p.others d' = [] := by
      have hback := hback p
      cases p <;> exact List.forall₂_nil_left_iff.1 hback
    rw [s.value?_document hd' hkey, hnone]
    rfl

end Settings

namespace Sample

/-- Settings with a flag that is a text, and a member that settings do not know. -/
def mistypedFlag : String :=
  "\x7b\"rules\":\x7b\"backfillOnCreate\":\"yes\"\x7d,\"plugins\":true\x7d"

/-- Settings of one member that they do not know, whose double does not come
back: `3e49` has more digits in its power than one rounding can keep. -/
def drifting : String := "\x7b\"limit\":3e49\x7d"

/-- The value of a member of a text's object. -/
def member? (text key : String) : Option Json := (Json.read? text).bind (·.get? key)

/-- The double that a value is, if it is one. -/
def double? : Json → Option Binary64
  | .num (.double x) => some x
  | _ => none

/-- A value whose double is known is that double. -/
theorem eq_of_double? {j : Json} {x : Binary64} (h : double? j = some x) :
    j = .num (.double x) := by
  unfold double? at h
  split at h <;> cases h
  rfl

/-- The double that `3e49` is read as. -/
def limit : Binary64 := ⟨false, 5777789833161707, 112⟩

end Sample

/-- Saved over a mistyped flag, settings lose `plugins`; saved over a double
that drifts, they do not keep all that they do not know. -/
theorem members_lost_over_mistyped_flag :
    (∃ v, Sample.member? Sample.mistypedFlag "plugins" = some v ∧
      ∃ saved, Settings.saveOver? {} {} (.text Sample.mistypedFlag) = some saved ∧
        Sample.member? saved "plugins" = none) ∧
    ∃ before, Json.read? Sample.drifting = some before ∧
      ∃ saved, Settings.saveOver? {} {} (.text Sample.drifting) = some saved ∧
        ∀ after, Json.read? saved = some after → ¬Settings.KeepsForeign before after := by
  constructor
  · have hmember : ((Sample.member? Sample.mistypedFlag "plugins").bind
        SettingsDocument.flag?).isSome = true := by decide +kernel
    have hnone : ((Json.readRaw? Sample.mistypedFlag).bind
        SettingsDocument.ofJson?).isSome = false := by decide +kernel
    obtain ⟨saved, hsaved, -, hlost⟩ :=
      Settings.saving_keeps_foreign_iff {} {} Sample.mistypedFlag
    obtain ⟨after, hafter, hgone⟩ := hlost fun raw hraw hunderstood => by
      rw [hraw, Option.bind_some, (SettingsDocument.ofJson?_isSome_iff raw).2 hunderstood] at hnone
      cases hnone
    cases hv : Sample.member? Sample.mistypedFlag "plugins" with
    | none =>
      rw [hv] at hmember
      cases hmember
    | some v =>
      refine ⟨v, rfl, saved, hsaved, ?_⟩
      unfold Sample.member?
      rw [hafter]
      exact hgone .top "plugins" (by decide)
  · have hsome : ((Json.readRaw? Sample.drifting).bind
        SettingsDocument.ofJson?).isSome = true := by decide +kernel
    have hdouble : (Sample.member? Sample.drifting "limit").bind Sample.double? =
        some Sample.limit := by decide +kernel
    have hdrift : (Number.double Sample.limit).reread? ≠ some (.double Sample.limit) := by
      decide +kernel
    obtain ⟨saved, hsaved, hkept, -⟩ := Settings.saving_keeps_foreign_iff {} {} Sample.drifting
    cases hraw : Json.readRaw? Sample.drifting with
    | none =>
      rw [hraw] at hsome
      cases hsome
    | some raw =>
      rw [hraw] at hsome
      have hunderstood := (SettingsDocument.ofJson?_isSome_iff raw).1 hsome
      have hread : Json.read? Sample.drifting = some raw.settle := by
        rw [Json.read?, hraw, Option.map_some]
      refine ⟨raw.settle, hread, saved, hsaved, fun after hafter hall => ?_⟩
      have hsteady := (hkept raw hraw hunderstood).1 ⟨after, hafter, hall⟩
      obtain ⟨v, hv, hx⟩ := Option.bind_eq_some_iff.1 hdouble
      obtain rfl := Sample.eq_of_double? hx
      unfold Sample.member? at hv
      rw [hread, Option.bind_some] at hv
      cases hsteady .top "limit" _ (by decide) hv with
      | double hback => exact hdrift hback

end LedgerRules
