/-
# Saved settings are read back

`Config.load_file` after `Config.save`, and a second `Config.save`.  Saved over
whatever text, settings are read back as they are, and where the same settings
are saved once more it is seen how much of the value stays
(`Settings.saving_again_keeps_value_iff`).

A reader finds in the first text the value of a document whose unknown members
have been written and read once (`Settings.exists_saved`), and in the second
text what comes back of that value.  So the value stays if these members are
steady by then, and another is found if one of their doubles comes back as a
third one.  In which order the members are written is left open each time.
-/

import LedgerRules.Proofs.Settings.Saving

namespace LedgerRules
namespace Settings

open SettingsDocument

/-- The doubles in all unknown members come back once they have been written and
read.  A double that is read from the text of another one may be a neighbour of
it, and the next reading may go on to a neighbour of that. -/
def ForeignSettles (before : Json) : Prop :=
  ∀ (p : Spot) (key : String) (v back : Json), key ∉ p.own → p.value? before key = some v →
    v.reread? = some back → back.Steady

variable (s : Settings) {raw : Json} {d d' : SettingsDocument}

/-- The members that come back of a text's unknown ones are those of the
document that comes back. -/
theorem foreignSettles_iff (hd : d.Tidy) (hread : ofJson? raw = some d) (hback : Rereads d d') :
    ForeignSettles raw.settle ↔ ∀ p : Spot, ∀ e ∈ p.others d', e.2.Steady := by
  constructor
  · intro h p e' he'
    obtain ⟨e, he, -, hv⟩ := exists_of_forall₂ (hback p).flip e' he'
    have hkey := hd.foreign p e he
    exact h p e.1 e.2 e'.2 hkey ((value?_settle_eq_some_iff hd hread hkey).2 he) hv
  · intro h p key v back hkey hv hreread
    obtain ⟨e', he', -, hv'⟩ := exists_of_forall₂ (hback p) _
      ((value?_settle_eq_some_iff hd hread hkey).1 hv)
    obtain rfl := Option.some.inj (hreread.symm.trans hv')
    exact h p e' he'

/-- Settings that name a user are those of a document with them in it. -/
theorem ofDocument_document (hs : Text.isBlankText s.user = false) (d : SettingsDocument) :
    ofDocument (s.document d) = s := by
  have huser : (some s.user).filter (!Text.isBlankText ·) = some s.user := by
    rw [Option.filter_some, hs]
    rfl
  show Settings.mk (((some s.user).filter (!Text.isBlankText ·)).getD "local") _ _ _ = s
  rw [huser]
  rfl

/-- **The second text has the value of the first** if and only if the members in
it that settings do not know are steady. -/
theorem exists_saved_again (order : MemberOrder) {text : String} (hd : d.Tidy)
    (htext : SettingsDocument.ofText (some text) = s.document d) : ∃ after,
      Json.read? (s.save order (some text)) = some after ∧
        (after = (s.document d).canonical ↔ ∀ p : Spot, ∀ e ∈ p.others d, e.2.Steady) := by
  obtain ⟨d', hback, hd', hafter, -⟩ := s.exists_saved order (some text)
  have hback : Rereads d d' := fun p => by
    rw [← s.others_document (d := d), ← htext]
    exact hback p
  refine ⟨_, hafter, fun heq => s.steady_of_kept hd hd' hback fun p e he => ?_, fun hsteady => ?_⟩
  · rw [heq, s.value?_document hd (hd.foreign p e he)]
    exact Json.member?_of_mem ((hd.ascending p).imp ne_of_lt) he
  · rw [s.document_congr (hback.others_eq hd hsteady)]

/-- **What a second saving leaves.** Settings with a user are saved over any
file that can be read, and then once more; the members that they do not know may
be written in any order both times.

* They are loaded as they are.
* Where the text they were saved over is not understood, readers find the same
  value in both texts.
* Where it is understood, they find the same value if and only if the doubles in
  the members that settings do not know come back once they have been written
  and read. -/
theorem saving_again_keeps_value_iff (hs : Text.isBlankText s.user = false) {file : TextFile}
    {content : Option String} (hfile : file.content? = some content) (first second : MemberOrder) :
    ∃ saved, s.saveOver? first file = some saved ∧ load? (.text saved) = some s ∧
      ∃ again before after, s.saveOver? second (.text saved) = some again ∧
        Json.read? saved = some before ∧ Json.read? again = some after ∧
        ((∀ raw, content.bind Json.readRaw? = some raw → ¬Understood raw) → after = before) ∧
        ∀ raw, content.bind Json.readRaw? = some raw → Understood raw →
          (after = before ↔ ForeignSettles raw.settle) := by
  obtain ⟨d', hback, hd', hbefore, hread⟩ := s.exists_saved first content
  obtain ⟨after, hafter, hsame⟩ := s.exists_saved_again second hd' hread
  refine ⟨s.save first content, by rw [saveOver?, hfile]; rfl, ?_, _, _, after, rfl, hbefore,
    hafter, fun hnot => hsame.2 fun p => ?_, fun raw hraw hunderstood => ?_⟩
  · show some (ofDocument (.ofText (some (s.save first content)))) = some s
    rw [hread, s.ofDocument_document hs]
  · rcases ofText_cases content with ⟨raw, hraw, hread⟩ | ⟨-, hempty⟩
    · exact absurd ((ofJson?_isSome_iff raw).1 (by rw [hread]; rfl)) (hnot raw hraw)
    · -- Nothing comes back of no members.
      have hnone : p.others d' = [] := by
        have hback := hback p
        rw [hempty] at hback
        cases p <;> exact List.forall₂_nil_left_iff.1 hback
      rw [hnone]
      exact List.forall_mem_nil _
  · rcases ofText_cases content with ⟨raw', hraw', hread⟩ | ⟨hnot, -⟩
    · obtain rfl := Option.some.inj (hraw.symm.trans hraw')
      rw [hsame, foreignSettles_iff (tidy_ofText content) hread hback]
    · exact absurd hunderstood (hnot raw hraw)

end Settings

namespace Sample

/-- Settings of another user, with a flag that is set. -/
def carol : Settings := { user := "carol", backfillOnCreate := true }

/-- The double that comes back of `limit`. -/
def limitAfter : Binary64 := ⟨false, 5777789833161706, 112⟩

end Sample

/-- Saved over a double that drifts, settings are loaded as they are; saved
again, they leave another value. -/
theorem drifting_limit_is_changed_by_saving_again :
    Text.isBlankText Sample.carol.user = false ∧
      (TextFile.text Sample.drifting).content? = some (some Sample.drifting) ∧
      ∃ saved, Sample.carol.saveOver? {} (.text Sample.drifting) = some saved ∧
        Settings.load? (.text saved) = some Sample.carol ∧
        ∃ again, Sample.carol.saveOver? {} (.text saved) = some again ∧
          Json.read? again ≠ Json.read? saved := by
  have huser : Text.isBlankText Sample.carol.user = false := by decide +kernel
  obtain ⟨saved, hsaved, hload, again, before, after, hagain, hbefore, hafter, -, hvalue⟩ :=
    Settings.saving_again_keeps_value_iff Sample.carol huser
      (rfl : (TextFile.text Sample.drifting).content? = some (some Sample.drifting)) {} {}
  refine ⟨huser, rfl, saved, hsaved, hload, again, hagain, fun hsame => ?_⟩
  rw [hbefore, hafter] at hsame
  have hsome : ((Json.readRaw? Sample.drifting).bind
      SettingsDocument.ofJson?).isSome = true := by decide +kernel
  have hdouble : (Sample.member? Sample.drifting "limit").bind Sample.double? =
      some Sample.limit := by decide +kernel
  have hback : (Number.double Sample.limit).reread? = some (.double Sample.limitAfter) := by
    decide +kernel
  have hdrift : (Number.double Sample.limitAfter).reread? ≠ some (.double Sample.limitAfter) := by
    decide +kernel
  obtain ⟨raw, hraw, hread⟩ := Option.bind_eq_some_iff.1 (Option.some_get hsome).symm
  have hunderstood := (SettingsDocument.ofJson?_isSome_iff raw).1 (by rw [hread]; rfl)
  have hsettles := (hvalue raw (by rw [Option.bind_some, hraw]) hunderstood).1
    (Option.some.inj hsame)
  obtain ⟨v, hv, hx⟩ := Option.bind_eq_some_iff.1 hdouble
  obtain rfl := Sample.eq_of_double? hx
  have hlimit : SettingsDocument.Spot.top.value? raw.settle "limit" =
      some (.num (.double Sample.limit)) := by
    rw [← hv, Sample.member?, Json.read?, hraw]
    rfl
  have hsteady := hsettles .top "limit" _ (.num (.double Sample.limitAfter)) (by decide) hlimit
    (by rw [Json.reread?, hback]; rfl)
  cases hsteady with
  | double hback => exact hdrift hback

end LedgerRules
