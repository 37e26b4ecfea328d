/-
# Removing and repairing rules

A rule is kept as a row, and the body in it as a text, so a row can hold what is
no rule.  To remove a rule on the command line, or to change it, is to read it
first.  A row that is read as a rule is taken out or written over, and all
others stay.  A row that is not read makes both fail, with what is wrong in it,
and nothing is changed: a body that is no longer accepted is not replaced by one
that is (`rules_are_mended_through_what_is_read`).

Deleting alone does not read.  So the operation behind the command takes any row
out.
-/

import LedgerRules.Proofs.Console.Narrowing
import LedgerRules.Proofs.Console.Opening
import LedgerRules.Proofs.Program.RuleChanges
import LedgerRules.Proofs.Store.Mirror

namespace LedgerRules

/-! ### The row of a rule -/

/-- Among its rules a database has the row of a rule of a user, and the table
can be written.  What stands in the row otherwise is left open: it may be read
as a rule or not. -/
structure Database.HoldsRule (d : Database) (user : String) (id : Id) (before : List RuleRow)
    (row : RuleRow) (after : List RuleRow) : Prop where
  rules : d.rules = before ++ row :: after
  id : row.id = id.text
  user : row.user = user
  distinct : (d.rules.map (·.id)).Nodup
  takes : TableName.rules ∉ d.closed

/-- The row with a rule written over it: the time of creation and the counts
stay, because the statement does not name these columns. -/
def RuleRow.overwrite (row : RuleRow) (r : Rule) (updatedAt : TimeCell) : RuleRow :=
  { row with
    name := r.name, conditions := r.conditions.toJson.compact
    category := r.category, merchant := r.merchant, active := r.active
    priority := r.priority, source := r.source.name, updatedAt }

namespace Database.HoldsRule

variable {d : Database} {user : String} {id : Id} {before after : List RuleRow} {row : RuleRow}
  (h : d.HoldsRule user id before row after)

include h

/-- The row is hit by statements for the rule. -/
theorem hits_row : hits user id row.id row.user = true := hits_iff.2 ⟨h.id, h.user⟩

/-- No other row has the identifier. -/
theorem hits_other {r : RuleRow} (hr : r ∈ before ++ after) :
    hits user id r.id r.user = false := by
  have hdistinct := h.distinct
  rw [h.rules, List.map_append, List.map_cons, List.nodup_middle, ← List.map_append,
    List.nodup_cons] at hdistinct
  refine Bool.eq_false_iff.2 fun hhit => hdistinct.1 ?_
  rw [h.id, ← (hits_iff.1 hhit).1]
  exact List.mem_map_of_mem hr

/-- Statements on rules go through. -/
theorem not_contains : ¬d.closed.contains .rules = true := fun hclosed =>
  h.takes (List.contains_iff_mem.1 hclosed)

/-- The row is what a statement for the rule finds. -/
theorem ruleRow? : d.ruleRow? user id = some row := by
  have hbefore : before.find? (fun r => hits user id r.id r.user) = none :=
    List.find?_eq_none.2 fun r hr => Bool.eq_false_iff.1 (h.hits_other (List.mem_append_left _ hr))
  unfold Database.ruleRow?
  rw [h.rules, List.find?_append, hbefore, Option.none_or]
  exact List.find?_cons_of_pos h.hits_row

/-- **Deleting takes the row out**, whatever is in it.  The statement looks at
the identifier and the user, and not at the body. -/
theorem deleteRule : d.deleteRule user id = (.ok true, { d with rules := before ++ after }) := by
  have hany : d.rules.any (fun r => hits user id r.id r.user) = true := by
    refine List.any_eq_true.2 ⟨row, ?_, h.hits_row⟩
    rw [h.rules]
    exact List.mem_append_right _ List.mem_cons_self
  have hkept : (before ++ after).filter (fun r => !hits user id r.id r.user) = before ++ after :=
    List.filter_eq_self.2 fun r hr => by rw [h.hits_other hr, Bool.not_false]
  have hrow : (row :: after).filter (fun r => !hits user id r.id r.user) =
      after.filter fun r => !hits user id r.id r.user :=
    List.filter_cons_of_neg (by rw [h.hits_row]; exact Bool.false_ne_true)
  unfold Database.deleteRule
  rw [if_neg h.not_contains]
  dsimp only
  rw [hany, h.rules, List.filter_append, hrow, ← List.filter_append, hkept]

/-- **A rule is written over its row**, and the others stay.  There is one row
with its identifier, in whose place it stands. -/
theorem updateRule {r : Rule} {updatedAt : TimeCell} (hid : r.id = id) (huser : r.user = user)
    (hcell : r.updatedAt.toCell? = some updatedAt) :
    d.updateRule r = (.ok (), { d with
      rules := before ++ row.overwrite r updatedAt :: after }) := by
  have hkept : ∀ rows : List RuleRow, (∀ x ∈ rows, x ∈ before ++ after) → (rows.map fun x =>
      if hits user id x.id x.user then x.overwrite r updatedAt else x) = rows := by
    intro rows hrows
    refine (List.map_congr_left fun x hx => ?_).trans (List.map_id' rows)
    rw [h.hits_other (hrows x hx), if_neg Bool.false_ne_true]
  have hmap : (d.rules.map fun x =>
      if hits user id x.id x.user then x.overwrite r updatedAt else x) =
        before ++ row.overwrite r updatedAt :: after := by
    rw [h.rules, List.map_append, List.map_cons, if_pos h.hits_row,
      hkept before fun x hx => List.mem_append_left _ hx,
      hkept after fun x hx => List.mem_append_right _ hx]
  unfold Database.updateRule
  rw [if_neg h.not_contains, huser, hid, h.ruleRow?]
  dsimp only
  rw [hcell]
  exact congrArg (fun rules => (Except.ok (), { d with rules })) hmap

/-- A rule that is read has the user and the identifier of its row. -/
theorem key_of_toRecord {r : Rule} (hread : row.toRecord = .ok r) : r.id = id ∧ r.user = user := by
  have hreads := (RuleRow.toRecord_eq_ok.1 hread).1
  have hid := hreads.id
  unfold readId at hid
  rw [h.id, Id.parse?_text] at hid
  exact ⟨(Except.ok.inj hid).symm, (congrArg Rule.user hreads.others).trans h.user⟩

end Database.HoldsRule

/-- A body that is not accepted keeps the row from being read, and the faults of
the body are told. -/
theorem RuleRow.toRecord_of_rejected {row : RuleRow} {id : Id} {faults : List Fault}
    (hid : row.id = id.text) (h : Conditions.validateText row.conditions = .rejected faults) :
    row.toRecord = .error (.store (.badConditions id faults)) := by
  have hread : readId row.id = .ok id := by
    unfold readId
    rw [hid, Id.parse?_text]
  rw [toRecord_eq, hread, h]
  rfl

/-! ### The operations -/

namespace Action

variable {user : String} {id : Id} {before after : List RuleRow} {row : RuleRow}
  {w : World Database} {u : RuleUpdate} {old : Rule}

/-- Asking for a rule is reading its row. -/
theorem run_getRule (h : w.store.HoldsRule user id before row after) :
    (getRule user id).run w = (row.toRecord, w) := by
  have hcall : (call (.getRule user id)).run w = (some <$> row.toRecord, w) := by
    show (Database.readOne (w.store.ruleRow? user id) RuleRow.toRecord, w) = _
    rw [h.ruleRow?]
    rfl
  unfold getRule
  cases hread : row.toRecord with
  | ok old =>
    rw [hread] at hcall
    exact run_bind_ok hcall _
  | error e =>
    rw [hread] at hcall
    exact run_bind_error hcall _

/-- A rule is deleted without being read. -/
theorem run_deleteRule (h : w.store.HoldsRule user id before row after) : ∃ w',
    (deleteRule user id).run w = (.ok (), w') ∧
      w'.store = { w.store with rules := before ++ after } := by
  have hcall : (call (.deleteRule user id)).run w =
      (.ok true, w.withStore { w.store with rules := before ++ after }) := by
    show ((w.store.deleteRule user id).1, w.withStore (w.store.deleteRule user id).2) = _
    rw [h.deleteRule]
  refine ⟨_, run_bind_ok hcall _, ?_⟩
  exact World.record_store (w.withStore { w.store with rules := before ++ after })
    (Event.about Event.ruleDeleted id)

/-- A rule that is not read is not changed, whatever the update. -/
theorem run_updateRule_of_error (h : w.store.HoldsRule user id before row after) {e : Error}
    (hread : row.toRecord = .error e) (includeManual : Bool) :
    (updateRule user id u includeManual).run w = (.error e, w) := by
  rw [updateRule_eq]
  exact run_bind_error (by rw [run_getRule h, hread]) _

/-- An update that has worked out the rule, with nothing to complain of, writes
it over its row. -/
theorem run_storeRule {rule : Rule} {cell : TimeCell}
    (h : w.store.HoldsRule rule.user rule.id before row after) (hfine : rule.complaint? = none)
    (hcell : w.supply.tick.1.toCell? = some cell) (includeManual : Bool) : ∃ w',
    (storeRule rule.user rule false includeManual).run w =
        (.ok ⟨{ rule with updatedAt := w.supply.tick.1 }, none⟩, w') ∧
      w'.store = { w.store with rules := before ++ row.overwrite rule cell :: after } := by
  have hyields : (storeRule rule.user rule false includeManual).Yields w fun r w' =>
      r = .ok ⟨{ rule with updatedAt := w.supply.tick.1 }, none⟩ ∧
        w'.store = { w.store with rules := before ++ row.overwrite rule cell :: after } := by
    unfold storeRule
    rw [yields_bind, yields_refuse, hfine, goes_ok, yields_bind, yields_now, goes_ok, yields_bind]
    have hwrite : w.store.updateRule { rule with updatedAt := w.supply.tick.1 } =
        (.ok (), { w.store with rules := before ++ row.overwrite rule cell :: after }) :=
      h.updateRule rfl rfl hcell
    show Goes _ _ (w.store.updateRule { rule with updatedAt := w.supply.tick.1 }).1
      (World.withStore _ (w.store.updateRule { rule with updatedAt := w.supply.tick.1 }).2)
    rw [hwrite, goes_ok, yields_bind, yields_record, goes_ok, finishChange_without_backfill,
      yields_pure]
    exact ⟨rfl, World.record_store ..⟩
  obtain ⟨r, w', hrun, rfl, hstore⟩ := hyields.exists_run
  exact ⟨w', hrun, hstore⟩

/-- **A rule that is read is changed**: it is written over its row, and then
comes the backfill if there is one. -/
theorem run_updateRule_of_ok (h : w.store.HoldsRule user id before row after)
    (hread : row.toRecord = .ok old) (hu : u.Acceptable) (hfine : (u.applied old).complaint? = none)
    {cell : TimeCell} (hcell : w.supply.tick.1.toCell? = some cell) (includeManual : Bool) :
    ∃ change w',
    (updateRule user id { u with backfill := false } includeManual).run w = (.ok change, w') ∧
      old.ChangedBy u change.rule ∧
      w'.store = { w.store with rules := before ++ row.overwrite change.rule cell :: after } ∧
      (updateRule user id u includeManual).run w =
        (finishChange user change.rule u.backfill includeManual).run w' := by
  obtain ⟨rfl, rfl⟩ := h.key_of_toRecord hread
  obtain ⟨hnot, -⟩ | ⟨-, hchange⟩ :=
    changeRule_cases old.user { u with backfill := false } includeManual old
  · exact absurd hu hnot
  have hwritten : w.store.HoldsRule (u.applied old).user (u.applied old).id before row after := h
  obtain ⟨w', hstored, hstore⟩ := run_storeRule hwritten hfine hcell includeManual
  have hplain : (updateRule old.user old.id { u with backfill := false } includeManual).run w =
      (.ok ⟨{ u.applied old with updatedAt := w.supply.tick.1 }, none⟩, w') := by
    rw [updateRule_eq, run_bind_ok (by rw [run_getRule h, hread]), hchange]
    exact hstored
  refine ⟨_, w', hplain, u.changedBy_applied hu old _, hstore, ?_⟩
  -- With the backfill that it asks for, the update is the one without, and then the backfill.
  rw [show updateRule old.user old.id u includeManual = _ from
    updateRule_eq_backfill old.user old.id u u.backfill includeManual]
  exact run_bind_ok hplain _

end Action

/-! ### The command -/

/-- A hyphen is no digit. -/
theorem Text.hexNumber?_hyphen (cs : List Char) : hexNumber? ('-' :: cs) = none := by
  have hnone : ∀ cs : List Char,
      cs.foldl (fun n c => n.bind fun n => (hexDigit? c).map (n * 16 + ·)) none = none := by
    intro cs
    induction cs with
    | nil => rfl
    | cons c cs ih => exact ih
  exact hnone cs

/-- No identifier begins with a hyphen. -/
theorem Id.parse?_hyphen {text : String} {cs : List Char} (h : text.toList = '-' :: cs) :
    parse? text = none := by
  have hdigits : ∀ cs, ofDigits? ('-' :: cs) = none := fun cs => by
    unfold ofDigits?
    rw [Text.hexNumber?_hyphen, Option.map_none, ite_self]
  unfold parse?
  rw [h]
  dsimp only
  split
  · exact hdigits cs
  split
  · unfold ofGroups?
    split
    · exact hdigits _
    · rfl
  split
  · rename_i hbrace
    exact absurd hbrace.2.1 (by simp)
  split
  · rename_i hurn
    exact absurd hurn.2 (by simp)
  · rfl

/-- What reads as an identifier with blanks around it does not look like an
option. -/
theorem Arguments.looksLikeOption_of_parse? {text : String} {id : Id}
    (h : Id.parse? (Text.trim text) = some id) : looksLikeOption text = false := by
  refine Bool.eq_false_iff.2 fun hlooks => ?_
  obtain ⟨c, cs, htext⟩ := toList_of_looksLikeOption hlooks
  have hfront : text.toList.dropWhile Text.isBlank = text.toList := by
    rw [htext]
    exact List.dropWhile_cons_of_neg (by decide)
  have htrim := Text.toList_trim text
  obtain hnone | ⟨rest, hrest⟩ : (Text.trim text).toList = [] ∨
      ∃ rest, (Text.trim text).toList = '-' :: rest := by
    have hprefix := List.rdropWhile_prefix Text.isBlank text.toList
    rw [htrim, hfront]
    rw [htext] at hprefix ⊢
    obtain hnil | ⟨rest, hrest, -⟩ := List.prefix_cons_iff.1 hprefix
    · exact .inl hnil
    · exact .inr ⟨rest, hrest⟩
  · have hempty : Id.parse? "" = none := by decide
    rw [String.toList_eq_nil_iff.1 hnone, hempty] at h
    cases h
  · rw [Id.parse?_hyphen hrest] at h
    cases h

/-- The command line that removes a rule without asking. -/
theorem Command.ofArguments_remove {text : String} {id : Id}
    (h : Id.parse? (Text.trim text) = some id) :
    ofArguments ["rule", "remove", text, "--force"] = .ok ⟨.ruleRemove text true, false⟩ := by
  have hplain : (!Arguments.looksLikeOption text) = true := by
    rw [Arguments.looksLikeOption_of_parse? h, Bool.not_false]
  have hread : Arguments.read ⟨.required, [flag "force" (some 'f'), jsonFlag]⟩ [text, "--force"] =
      .ok ⟨some text, [("force", [])]⟩ := by
    unfold Arguments.read Arguments.readAll
    rw [if_pos hplain]
    rfl
  show ofGroup "rule" ["remove", text, "--force"] = _
  unfold ofGroup
  dsimp only
  rw [show form? "rule" "remove" = some ⟨.required, [flag "force" (some 'f'), jsonFlag]⟩ from rfl]
  dsimp only
  rw [hread]
  rfl

namespace Console

variable {s : Surroundings} {desk : Desk} {settings : Settings} {d : Database} {text : String}
  {id : Id} {before after : List RuleRow} {row : RuleRow}

/-- Asking for a rule leaves the database as it is, and finds what is in its
row. -/
theorem perform_getRule (hopen : desk.site.Opens s.env settings d)
    (h : d.HoldsRule settings.user id before row after) : ∃ desk',
      perform s.env (Action.getRule settings.user id) desk = (.ok ⟨row.toRecord, []⟩, desk') ∧
      desk.site.Becomes settings.demo d desk'.site := by
  obtain ⟨desk', hperform, hbecomes⟩ :=
    perform_of_opens hopen (Action.getRule settings.user id)
  have hrun : (Action.getRule settings.user id).run (world desk d) = (row.toRecord, world desk d) :=
    Action.run_getRule h
  rw [hrun] at hperform hbecomes
  exact ⟨desk', hperform, hbecomes⟩

/-- A command that removes a rule without asking comes to its row.  If it is
read, the command goes on to delete the rule, and if not, it ends with what is
wrong in it. -/
theorem task_remove {c : Command} {force json : Bool} (hc : c = ⟨.ruleRemove text force, json⟩)
    (hforced : (force || json) = true) (hid : Id.parse? (Text.trim text) = some id)
    (hopen : desk.site.Opens s.env settings d)
    (h : d.HoldsRule settings.user id before row after) : ∃ desk',
      (begun c desk).site.Becomes settings.demo d desk'.site ∧
      (∀ e, row.toRecord = .error e → task c s desk = (.ok (errorOutput [] e), desk')) ∧
      ∀ old, row.toRecord = .ok old → ∃ show_ : Unit → Output, (show_ ()).exit = 0 ∧
        task c s desk =
          performAndShow s.env json (Action.deleteRule settings.user id) show_ desk' := by
  have hopen' : (begun c desk).site.Opens s.env settings d := opens_begun_iff.2 hopen
  -- The database is opened for the settings, and again to ask for the rule.
  obtain ⟨desk₁, hopened, hbecomes₁, -⟩ := openSettings_of_opens hopen'
  obtain ⟨desk₂, hfound, hbecomes₂⟩ := perform_getRule (hbecomes₁.opens hopen') h
  have hbegun : task c s desk = ruleRemoveTask text force s json (begun c desk) := by
    subst hc
    rfl
  have hread := (Step.Reads.readId text).ok id hid desk₁
  refine ⟨desk₂, hbecomes₁.trans hbecomes₂, fun e he => ?_, fun old hold => ?_⟩
  · rw [he] at hfound
    rw [hbegun]
    unfold ruleRemoveTask
    rw [bind_of_ok hopened, bind_of_ok hread, bind_of_ok hfound]
    rfl
  · rw [hold] at hfound
    have hnotAsked : ¬(!force && !json) = true := by
      rw [← Bool.not_or, hforced]
      exact Bool.false_ne_true
    rw [hbegun]
    unfold ruleRemoveTask
    rw [bind_of_ok hopened, bind_of_ok hread, bind_of_ok hfound]
    dsimp only
    rw [if_neg hnotAsked, (h.key_of_toRecord hold).1]
    refine ⟨_, ?_, rfl⟩
    cases json <;> rfl

/-- **Removing a rule without asking**: if its row is read it is taken out, and
if not, what is wrong in it is told. -/
theorem run_remove {c : Command} {force json : Bool} (hc : c = ⟨.ruleRemove text force, json⟩)
    (hforced : (force || json) = true) (hid : Id.parse? (Text.trim text) = some id)
    (hopen : desk.site.Opens s.env settings d)
    (h : d.HoldsRule settings.user id before row after) :
    (∀ e, row.toRecord = .error e → (run c s desk).1 = .fail e.message ∧
      desk.site.Becomes settings.demo d (run c s desk).2.site) ∧
    ∀ old, row.toRecord = .ok old → (run c s desk).1.exit = 0 ∧
      desk.site.Becomes settings.demo { d with rules := before ++ after }
        (run c s desk).2.site := by
  obtain ⟨desk', hbecomes, herror, hok⟩ := task_remove hc hforced hid hopen h
  rw [run_desk]
  refine ⟨fun e he => ⟨?_, ?_⟩, fun old hold => ?_⟩
  · unfold run
    rw [herror e he]
    rfl
  · rw [herror e he]
    exact becomes_begun hbecomes
  · obtain ⟨show_, hshow, htask⟩ := hok old hold
    obtain ⟨o, desk'', hshown, hleft, hcode⟩ := performAndShow_of_opens
      (hbecomes.opens (opens_begun_iff.2 hopen)) json (Action.deleteRule settings.user id) show_
    have hheld : (world desk' d).store.HoldsRule settings.user id before row after := h
    obtain ⟨w', hdeleted, hstore⟩ := Action.run_deleteRule hheld
    rw [hdeleted] at hleft hcode
    rw [hstore] at hleft
    rw [exit_run, htask, hshown]
    exact ⟨hcode.trans hshow, becomes_begun (hbecomes.trans hleft)⟩

end Console

/-- **Rules are removed and repaired through what is read of them.** Take a
database that has the row of a rule among others, with identifiers that are
distinct.

* A row with a body that is not accepted is not read, and the error tells the
  faults of the body.
* `rule remove` with `--force` takes out a row that is read, and ends with the
  exit code 0.  For one that is not read it tells the error, and all rows stay.
* To delete the rule without the command succeeds whatever is in the row, and
  takes out that alone.
* To update a rule that is read, with a body that is accepted and nothing to
  complain of, succeeds and writes the rule with that body over the row; all
  others stay, and a backfill comes after that.  If the row is not read an
  update fails with the error, whatever body it brings, and does nothing. -/
theorem rules_are_mended_through_what_is_read {d : Database} {user : String} {id : Id}
    {before after : List RuleRow} {row : RuleRow} (h : d.HoldsRule user id before row after) :
    (∀ faults, Conditions.validateText row.conditions = .rejected faults →
      row.toRecord = .error (.store (.badConditions id faults))) ∧
    (∀ (text : String) (s : Surroundings) (desk : Desk) (settings : Settings),
      Id.parse? (Text.trim text) = some id → desk.site.Opens s.env settings d →
      settings.user = user →
      ∃ c, Command.ofArguments ["rule", "remove", text, "--force"] = .ok c ∧
        (∀ e, row.toRecord = .error e → (Console.run c s desk).1 = .fail e.message ∧
          desk.site.Becomes settings.demo d (Console.run c s desk).2.site) ∧
        ∀ old, row.toRecord = .ok old → (Console.run c s desk).1.exit = 0 ∧
          desk.site.Becomes settings.demo { d with rules := before ++ after }
            (Console.run c s desk).2.site) ∧
    ∀ w : World Database, w.store = d →
      (∃ w', (Action.deleteRule user id).run w = (.ok (), w') ∧
        w'.store = { d with rules := before ++ after }) ∧
      ∀ (u : RuleUpdate) (includeManual : Bool),
        (∀ e, row.toRecord = .error e →
          (Action.updateRule user id u includeManual).run w = (.error e, w)) ∧
        ∀ old body c cell, row.toRecord = .ok old → u.conditions = some body →
          Conditions.validate body = .accepted c → (u.applied old).complaint? = none →
          w.supply.tick.1.toCell? = some cell → ∃ change w',
            (Action.updateRule user id { u with backfill := false } includeManual).run w =
              (.ok change, w') ∧
            old.ChangedBy u change.rule ∧ change.rule.conditions = c ∧
            w'.store = { d with rules := before ++ row.overwrite change.rule cell :: after } ∧
            (Action.updateRule user id u includeManual).run w =
              (Action.finishChange user change.rule u.backfill includeManual).run w' := by
  refine ⟨fun faults => RuleRow.toRecord_of_rejected h.id, ?_, ?_⟩
  · rintro text s desk settings hid hopen rfl
    exact ⟨_, Command.ofArguments_remove hid, Console.run_remove rfl rfl hid hopen h⟩
  · rintro w rfl
    refine ⟨Action.run_deleteRule h, fun u includeManual =>
      ⟨fun e hread => Action.run_updateRule_of_error h hread includeManual, ?_⟩⟩
    intro old body c cell hread hbody hc hfine hcell
    have hu : u.Acceptable := by
      intro body' hbody'
      rw [hbody] at hbody'
      obtain rfl := Option.some.inj hbody'
      exact ⟨c, hc⟩
    obtain ⟨change, w', hplain, hchanged, hstore, hfull⟩ :=
      Action.run_updateRule_of_ok h hread hu hfine hcell includeManual
    have haccepted := (hchanged.normal body hbody).1
    exact ⟨change, w', hplain, hchanged, Verdict.accepted.inj (haccepted.symm.trans hc), hstore,
      hfull⟩

namespace Sample

/-- The row of a rule whose body is no JSON text. -/
def brokenRow : RuleRow := { bakerRow with id := (Id.mk 4#128).text, conditions := "bakery" }

/-- The rows of a rule and of a broken one. -/
def cellarRows : Database := { rules := [bakerRow, brokenRow] }

/-- A site with the two rows. -/
def cellar : Desk := { pantry with site.ledger := .present ⟨{}, cellarRows⟩ }

/-- The world around the two rows. -/
def cellarWorld : World Database := { store := cellarRows, supply := pantry.supply }

/-- Surroundings without settings. -/
def bare : Surroundings := { directory := "data" }

/-- An update that brings a body for bread. -/
def mend : RuleUpdate := { conditions := some (mentions "bread") }

/-- The body that the update brings, as it is accepted. -/
def mended : Conditions := ⟨.and, [.text .description (.contains "bread") (some false)]⟩

/-- The rule in the row that is not broken. -/
def sound : Rule :=
  { id := ⟨3#128⟩, user := "local", name := "baker"
    conditions := ⟨.and, [.text .description (.contains "bakery") (some false)]⟩
    category := some 9, merchant := none, active := true, priority := 1, source := .user
    timesApplied := 0, lastAppliedAt := none, createdAt := ⟨0, 0⟩, updatedAt := ⟨0, 0⟩ }

end Sample

/-- Of two rules the sound one is removed and repaired, and the broken one can
only be deleted by the operation. -/
theorem sound_rule_is_mended_alone :
    Sample.cellarRows.HoldsRule "local" ⟨3#128⟩ [] Sample.bakerRow [Sample.brokenRow] ∧
    Sample.cellarRows.HoldsRule "local" ⟨4#128⟩ [Sample.bakerRow] Sample.brokenRow [] ∧
    (∃ c, Command.ofArguments ["rule", "remove", (Id.mk 3#128).text, "--force"] = .ok c ∧
      (Console.run c Sample.bare Sample.cellar).1.exit = 0 ∧
      Sample.cellar.site.Becomes false { rules := [Sample.brokenRow] }
        (Console.run c Sample.bare Sample.cellar).2.site) ∧
    (∃ c e, Command.ofArguments ["rule", "remove", (Id.mk 4#128).text, "--force"] = .ok c ∧
      Sample.brokenRow.toRecord = .error e ∧
      (Console.run c Sample.bare Sample.cellar).1 = .fail e.message ∧
      Sample.cellar.site.Becomes false Sample.cellarRows
        (Console.run c Sample.bare Sample.cellar).2.site ∧
      (Action.updateRule "local" ⟨4#128⟩ Sample.mend false).run Sample.cellarWorld =
        (.error e, Sample.cellarWorld)) ∧
    (∃ w', (Action.deleteRule "local" ⟨4#128⟩).run Sample.cellarWorld = (.ok (), w') ∧
      w'.store = { rules := [Sample.bakerRow] }) ∧
    ∃ change cell w', (Action.updateRule "local" ⟨3#128⟩ Sample.mend false).run Sample.cellarWorld =
        (.ok change, w') ∧
      change.rule.conditions = Sample.mended ∧
      w'.store = { rules := [Sample.bakerRow.overwrite change.rule cell, Sample.brokenRow] } := by
  have hopen : Sample.cellar.site.Opens Sample.bare.env {} Sample.cellarRows := ⟨rfl, rfl⟩
  have hsound : Sample.cellarRows.HoldsRule "local" ⟨3#128⟩ [] Sample.bakerRow [Sample.brokenRow] :=
    ⟨rfl, rfl, rfl, by decide +kernel, by decide⟩
  have hbroken :
      Sample.cellarRows.HoldsRule "local" ⟨4#128⟩ [Sample.bakerRow] Sample.brokenRow [] :=
    ⟨rfl, rfl, rfl, by decide +kernel, by decide⟩
  have hread : Sample.bakerRow.toRecord = .ok Sample.sound := by decide +kernel
  obtain ⟨-, hcommand, haction⟩ := rules_are_mended_through_what_is_read hsound
  obtain ⟨hrejected, hcommand', haction'⟩ := rules_are_mended_through_what_is_read hbroken
  obtain ⟨c, hc, -, hremoved⟩ := hcommand (Id.mk 3#128).text Sample.bare Sample.cellar {}
    (by decide +kernel) hopen rfl
  obtain ⟨c', hc', hfailed, -⟩ := hcommand' (Id.mk 4#128).text Sample.bare Sample.cellar {}
    (by decide +kernel) hopen rfl
  obtain ⟨faults, hfaults⟩ :
      ∃ faults, Conditions.validateText Sample.brokenRow.conditions = .rejected faults :=
    ⟨_, rfl⟩
  have herror := hrejected faults hfaults
  obtain ⟨hdeleted, hupdate'⟩ := haction' Sample.cellarWorld rfl
  obtain ⟨-, hupdate⟩ := haction Sample.cellarWorld rfl
  obtain ⟨change, w', hrun, -, hbody, hstore, -⟩ :=
    (hupdate Sample.mend false).2 Sample.sound (Sample.mentions "bread") Sample.mended
      (.finite 0) hread rfl (by decide +kernel) (by decide +kernel) (by decide +kernel)
  exact ⟨hsound, hbroken, ⟨c, hc, hremoved _ hread⟩,
    ⟨c', _, hc', herror, (hfailed _ herror).1, (hfailed _ herror).2,
      (hupdate' Sample.mend false).1 _ herror⟩,
    hdeleted, change, .finite 0, w', hrun, hbody, hstore⟩

/-- Not every rule can be removed on the command line, and not every rule can be
given a body that is accepted. -/
theorem broken_rule_stays :
    (¬∀ (d : Database) (user : String) (id : Id) (before after : List RuleRow) (row : RuleRow)
      (s : Surroundings) (desk : Desk) (settings : Settings),
      d.HoldsRule user id before row after → desk.site.Opens s.env settings d →
      settings.user = user →
      ∃ c, Command.ofArguments ["rule", "remove", id.text, "--force"] = .ok c ∧
        (Console.run c s desk).1.exit = 0 ∧
        desk.site.Becomes settings.demo { d with rules := before ++ after }
          (Console.run c s desk).2.site) ∧
    ¬∀ (w : World Database) (user : String) (id : Id) (before after : List RuleRow) (row : RuleRow)
      (body : Json) (c : Conditions),
      w.store.HoldsRule user id before row after → Conditions.validate body = .accepted c →
      ∃ change w', (Action.updateRule user id { conditions := some body } false).run w =
        (.ok change, w') ∧ change.rule.conditions = c := by
  have hbroken :
      Sample.cellarRows.HoldsRule "local" ⟨4#128⟩ [Sample.bakerRow] Sample.brokenRow [] :=
    ⟨rfl, rfl, rfl, by decide +kernel, by decide⟩
  constructor
  · intro h
    obtain ⟨c, hc, hexit, -⟩ := h Sample.cellarRows "local" ⟨4#128⟩ [Sample.bakerRow] []
      Sample.brokenRow Sample.bare Sample.cellar {} hbroken ⟨rfl, rfl⟩ rfl
    have hread : Command.ofArguments ["rule", "remove", (Id.mk 4#128).text, "--force"] =
        .ok ⟨.ruleRemove (Id.mk 4#128).text true, false⟩ := by decide +kernel
    obtain rfl := Except.ok.inj (hread.symm.trans hc)
    exact absurd hexit (by decide +kernel)
  · intro h
    obtain ⟨change, w', hrun, -⟩ := h Sample.cellarWorld "local" ⟨4#128⟩ [Sample.bakerRow] []
      Sample.brokenRow (Sample.mentions "bread") Sample.mended hbroken (by decide +kernel)
    have hfails : ((Action.updateRule "local" ⟨4#128⟩ Sample.mend false).run
        Sample.cellarWorld).1.isOk = false := by decide +kernel
    rw [show (Action.updateRule "local" ⟨4#128⟩ Sample.mend false).run Sample.cellarWorld = _
      from hrun] at hfails
    cases hfails

end LedgerRules
