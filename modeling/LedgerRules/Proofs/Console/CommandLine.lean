/-
# Command lines of `rule apply`

A command line of `rule apply` gives `--ids` any number of times, with its value
behind it or behind `=`, and either of two flags at most once, in any order
(`Command.ApplyLine`).  Whatever is accepted is such a line, and the command is
made of the entries of all values together (`Command.applyLine_of_ofArguments`).

The arguments are read from the left into what was given so far, so the
induction speaks of what a rest of the line adds to that (`Arguments.Adds`).
-/

import LedgerRules.Console.Command
import LedgerRules.Proofs.Console.Arguments

namespace LedgerRules

namespace Command

/-- A command line of `rule apply`, the values that are given for `--ids`, and
whether the flags `--include-manual` and `--json` are. -/
inductive ApplyLine : List String → List String → Bool → Bool → Prop
  | done : ApplyLine [] [] false false
  | dashes : ApplyLine ["--"] [] false false
  | ids {value : String} {rest values : List String} {manual json : Bool}
      (hv : Arguments.looksLikeOption value = false) (h : ApplyLine rest values manual json) :
    ApplyLine ("--ids" :: value :: rest) (value :: values) manual json
  | joined {value : String} {rest values : List String} {manual json : Bool}
      (h : ApplyLine rest values manual json) :
    ApplyLine (("--ids=" ++ value) :: rest) (value :: values) manual json
  | manual {rest values : List String} {json : Bool} (h : ApplyLine rest values false json) :
    ApplyLine ("--include-manual" :: rest) values true json
  | json {rest values : List String} {manual : Bool} (h : ApplyLine rest values manual false) :
    ApplyLine ("--json" :: rest) values manual true

/-- The option `--ids`.  It may come several times, and each of its values is
split at commas. -/
def idsOption : OptionForm := { name := "ids", takes := .several }

/-- The form of `rule apply`: no operand, one option with values and two flags.
-/
def applyForm : CommandForm := ⟨.absent, [idsOption, flag "include-manual" none, jsonFlag]⟩

/-- No option of `rule apply` has a short name. -/
theorem byShort?_apply (c : Char) : applyForm.byShort? c = none := rfl

/-- The options of `rule apply` by their names. -/
theorem of_byName?_apply {name : String} {o : OptionForm} (h : applyForm.byName? name = some o) :
    (name = "ids" ∧ o = idsOption) ∨ (name = "include-manual" ∧ o = flag "include-manual" none) ∨
      (name = "json" ∧ o = jsonFlag) := by
  obtain ⟨ho, rfl⟩ := CommandForm.of_byName? h
  simp only [applyForm, List.mem_cons, List.not_mem_nil, or_false] at ho
  obtain rfl | rfl | rfl := ho
  · exact .inl ⟨rfl, rfl⟩
  · exact .inr (.inl ⟨rfl, rfl⟩)
  · exact .inr (.inr ⟨rfl, rfl⟩)

end Command

namespace Arguments

open Command

variable {a b : Arguments}

/-- What further arguments add to those of `rule apply` that were given so far.
A flag may come once in all, and the values of `--ids` stand in the order of the
line. -/
structure Adds (a b : Arguments) (values : List String) (manual json : Bool) : Prop where
  ids : b.values "ids" = a.values "ids" ++ values.flatMap pieces
  hasManual : b.has "include-manual" = (a.has "include-manual" || manual)
  hasJson : b.has "json" = (a.has "json" || json)
  manualOnce : a.has "include-manual" = true → manual = false
  jsonOnce : a.has "json" = true → json = false

/-- The arguments with one more option.  Whether it was given before is not
asked here. -/
def giving (a : Arguments) (name : String) (values : List String) : Arguments :=
  { a with given := a.given ++ [(name, values)] }

/-- The flags that count as given with one more option. -/
theorem has_giving (a : Arguments) (name name' : String) (values : List String) :
    (a.giving name' values).has name = (a.has name || name' == name) := by
  unfold has giving
  rw [List.any_append, List.any_cons, List.any_nil, Bool.or_false]

/-- The values of an option with one more option. -/
theorem values_giving (a : Arguments) (name name' : String) (values : List String) :
    (a.giving name' values).values name =
      a.values name ++ if name' = name then values else [] := by
  unfold Arguments.values giving
  rw [List.filter_append, List.flatMap_append]
  congr 1
  by_cases h : name' = name <;> simp [h]

/-- A value for `--ids` is split at its commas. -/
theorem addValue_ids (a : Arguments) (value : String) :
    a.addValue idsOption value = .ok (a.giving "ids" (pieces value)) := rfl

/-- A flag is added if it was not given yet. -/
theorem add_flag {name : String} (h : a.add (flag name none) [] = .ok b) :
    a.has name = false ∧ b = a.giving name [] := by
  unfold add at h
  split at h
  · cases h
  · rename_i hnot
    have htakes : (flag name none).takes ≠ .several := nofun
    exact ⟨Bool.eq_false_iff.2 fun hhas => hnot ⟨htakes, hhas⟩, (Except.ok.inj h).symm⟩

namespace Adds

/-- Where nothing follows, nothing is added. -/
theorem nothing (a : Arguments) : a.Adds a [] false false :=
  ⟨(List.append_nil _).symm, (Bool.or_false _).symm, (Bool.or_false _).symm, fun _ => rfl,
    fun _ => rfl⟩

/-- A value for `--ids` is added. -/
theorem of_ids {value : String} {values : List String} {manual json : Bool}
    (h : (a.giving "ids" (pieces value)).Adds b values manual json) :
    a.Adds b (value :: values) manual json := by
  have hmanual : (a.giving "ids" (pieces value)).has "include-manual" = a.has "include-manual" := by
    rw [has_giving]
    exact Bool.or_false _
  have hjson : (a.giving "ids" (pieces value)).has "json" = a.has "json" := by
    rw [has_giving]
    exact Bool.or_false _
  refine ⟨?_, hmanual ▸ h.hasManual, hjson ▸ h.hasJson, hmanual ▸ h.manualOnce, hjson ▸ h.jsonOnce⟩
  rw [h.ids, values_giving, if_pos rfl, List.flatMap_cons, List.append_assoc]

/-- The flag `--include-manual` is added. -/
theorem of_manual {values : List String} {manual json : Bool}
    (hnot : a.has "include-manual" = false)
    (h : (a.giving "include-manual" []).Adds b values manual json) :
    manual = false ∧ a.Adds b values true json := by
  have hmanual : (a.giving "include-manual" []).has "include-manual" = true := by
    rw [has_giving]
    exact Bool.or_true _
  have hjson : (a.giving "include-manual" []).has "json" = a.has "json" := by
    rw [has_giving]
    exact Bool.or_false _
  refine ⟨h.manualOnce hmanual, ?_, ?_, hjson ▸ h.hasJson, fun hhas => ?_, hjson ▸ h.jsonOnce⟩
  · rw [h.ids, values_giving, if_neg (by decide), List.append_nil]
  · rw [h.hasManual, hmanual, Bool.or_true, Bool.true_or]
  · rw [hnot] at hhas
    cases hhas

/-- The flag `--json` is added. -/
theorem of_json {values : List String} {manual json : Bool} (hnot : a.has "json" = false)
    (h : (a.giving "json" []).Adds b values manual json) :
    json = false ∧ a.Adds b values manual true := by
  have hmanual : (a.giving "json" []).has "include-manual" = a.has "include-manual" := by
    rw [has_giving]
    exact Bool.or_false _
  have hjson : (a.giving "json" []).has "json" = true := by
    rw [has_giving]
    exact Bool.or_true _
  refine ⟨h.jsonOnce hjson, ?_, hmanual ▸ h.hasManual, ?_, hmanual ▸ h.manualOnce, fun hhas => ?_⟩
  · rw [h.ids, values_giving, if_neg (by decide), List.append_nil]
  · rw [h.hasJson, hjson, Bool.or_true, Bool.true_or]
  · rw [hnot] at hhas
    cases hhas

end Adds

/-! ### Reading the line -/

/-- What a long option of `rule apply` is read as. -/
theorem readLong_apply {body : String} {waiting : Option OptionForm}
    (h : readLong applyForm a body.toList = .ok (b, waiting)) :
    (body = "ids" ∧ b = a ∧ waiting = some idsOption) ∨
      (∃ value, body = "ids=" ++ value ∧ b = a.giving "ids" (pieces value) ∧ waiting = none) ∨
      (body = "include-manual" ∧ a.has "include-manual" = false ∧
        b = a.giving "include-manual" [] ∧ waiting = none) ∨
      (body = "json" ∧ a.has "json" = false ∧ b = a.giving "json" [] ∧ waiting = none) := by
  cases readsLong_of_readLong h with
  | flag hform htakes hadd =>
    obtain ⟨rfl, rfl⟩ | ⟨rfl, rfl⟩ | ⟨rfl, rfl⟩ := of_byName?_apply hform
    · cases htakes
    · obtain ⟨hnot, hb⟩ := add_flag hadd
      exact .inr (.inr (.inl ⟨rfl, hnot, hb, rfl⟩))
    · obtain ⟨hnot, hb⟩ := add_flag hadd
      exact .inr (.inr (.inr ⟨rfl, hnot, hb, rfl⟩))
  | alone hform htakes =>
    obtain ⟨rfl, rfl⟩ | ⟨-, rfl⟩ | ⟨-, rfl⟩ := of_byName?_apply hform
    · exact .inl ⟨rfl, rfl, rfl⟩
    · exact absurd rfl htakes
    · exact absurd rfl htakes
  | @joined _ _ value _ hform htakes hadd =>
    obtain ⟨rfl, rfl⟩ | ⟨-, rfl⟩ | ⟨-, rfl⟩ := of_byName?_apply hform
    · rw [addValue_ids] at hadd
      exact .inr (.inl ⟨value, rfl, (Except.ok.inj hadd).symm, rfl⟩)
    · exact absurd rfl htakes
    · exact absurd rfl htakes

/-- **What is accepted is a command line**: read behind what was given so far,
arguments are a rest of one; and if `--ids` still waits for its value, that
comes first. -/
theorem applyLine_of_readAll (args : List String) :
    (∀ a b : Arguments, readAll applyForm none a args = .ok b → ∃ values manual json,
      ApplyLine args values manual json ∧ a.Adds b values manual json) ∧
    ∀ a b : Arguments, readAll applyForm (some idsOption) a args = .ok b →
      ∃ value rest values manual json, args = value :: rest ∧ looksLikeOption value = false ∧
        ApplyLine rest values manual json ∧ a.Adds b (value :: values) manual json := by
  induction args with
  | nil =>
    refine ⟨fun a b h => ?_, fun a b h => ?_⟩
    · cases h
      exact ⟨[], false, false, .done, .nothing a⟩
    · cases h
  | cons arg rest ih =>
    refine ⟨fun a b h => ?_, fun a b h => ?_⟩
    · cases reads_of_readAll h with
      | operand hplain hadd hrest =>
        -- There is no operand.
        cases hadd
      | dashes hrest =>
        cases rest with
        | nil =>
          cases hrest
          exact ⟨[], false, false, .dashes, .nothing a⟩
        | cons operand _ => cases hrest
      | @long _ a' waiting body _ hbody hread hrest =>
        obtain ⟨hname, rfl, rfl⟩ | ⟨value, hname, rfl, rfl⟩ | ⟨hname, hnot, rfl, rfl⟩ |
          ⟨hname, hnot, rfl, rfl⟩ := readLong_apply hread
        · obtain ⟨value, rest', values, manual, json, rfl, hv, hline, hadds⟩ := ih.2 _ _ hrest
          exact ⟨_, manual, json, hname ▸ .ids hv hline, hadds⟩
        · obtain ⟨values, manual, json, hline, hadds⟩ := ih.1 _ _ hrest
          refine ⟨value :: values, manual, json, ?_, hadds.of_ids⟩
          rw [hname, ← String.append_assoc]
          exact .joined hline
        · obtain ⟨values, manual, json, hline, hadds⟩ := ih.1 _ _ hrest
          obtain ⟨rfl, hadded⟩ := hadds.of_manual hnot
          exact ⟨values, true, json, hname ▸ .manual hline, hadded⟩
        · obtain ⟨values, manual, json, hline, hadds⟩ := ih.1 _ _ hrest
          obtain ⟨rfl, hadded⟩ := hadds.of_json hnot
          exact ⟨values, manual, true, hname ▸ .json hline, hadded⟩
      | @short _ _ _ _ c cs _ harg hc hread hrest =>
        -- There are no short options.
        unfold readShort at hread
        rw [byShort?_apply] at hread
        cases hread
    · cases reads_of_readAll h with
      | value hplain hadd hrest =>
        rw [addValue_ids] at hadd
        cases hadd
        obtain ⟨values, manual, json, hline, hadds⟩ := ih.1 _ _ hrest
        exact ⟨arg, rest, values, manual, json, rfl, hplain nofun, hline, hadds.of_ids⟩

end Arguments

namespace Command

/-- Nothing is required of the arguments of `rule apply`. -/
theorem read_apply (args : List String) :
    Arguments.read applyForm args = Arguments.readAll applyForm none {} args := by
  have hcomplete : ∀ a : Arguments, a.complete applyForm = true := fun a => by
    simp [Arguments.complete, applyForm, idsOption, jsonFlag, flag]
  unfold Arguments.read
  cases Arguments.readAll applyForm none {} args with
  | error stop => rfl
  | ok a => exact if_pos (hcomplete a)

/-- What a command line of `rule apply` is read as. -/
theorem ofArguments_apply (args : List String) :
    ofArguments ("rule" :: "apply" :: args) =
      (Arguments.readAll applyForm none {} args).map fun a =>
        ⟨.ruleApply (a.values "ids") (a.has "include-manual"), a.has "json"⟩ := by
  have hform : form? "rule" "apply" = some applyForm := rfl
  show ofGroup "rule" ("apply" :: args) = _
  rw [ofGroup, hform]
  dsimp only
  rw [read_apply]
  cases Arguments.readAll applyForm none {} args <;> rfl

/-- **An accepted command line of `rule apply`** is one by `ApplyLine`, and the
command has the entries of all values together.  A value may have no entries but
blank ones. -/
theorem applyLine_of_ofArguments {args : List String} {c : Command}
    (h : ofArguments ("rule" :: "apply" :: args) = .ok c) :
    ∃ values manual json, ApplyLine args values manual json ∧
      c = ⟨.ruleApply (values.flatMap Arguments.pieces) manual, json⟩ := by
  rw [ofArguments_apply] at h
  cases hread : Arguments.readAll applyForm none {} args with
  | error stop =>
    rw [hread] at h
    cases h
  | ok a =>
    obtain ⟨values, manual, json, hline, hadds⟩ := (Arguments.applyLine_of_readAll args).1 _ _ hread
    rw [hread] at h
    refine ⟨values, manual, json, hline, (Except.ok.inj h).symm.trans ?_⟩
    dsimp only
    rw [hadds.ids, hadds.hasManual, hadds.hasJson]
    rfl

end Command
end LedgerRules
