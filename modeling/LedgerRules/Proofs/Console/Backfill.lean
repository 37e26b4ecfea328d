/-
# Backfills that are asked for

`rule add` and `rule edit` store a rule and then, if a backfill is asked for,
apply all rules of the user to all stored transactions.  Both leave just what
the two steps leave one after the other (`Console.StoresThenBackfills`), and
where no backfill is asked for, transactions stay as they were.

What differs is where a backfill can be asked for.  With `rule add` that is the
flag `--backfill` or the setting, from the file or from the environment; with
`rule edit` it is the flag alone, and the setting is not looked at
(`Console.backfill_asked_by_flag_and_when_adding_by_setting`).
-/

import LedgerRules.Proofs.Console.Flags
import LedgerRules.Proofs.Console.Narrowing
import LedgerRules.Proofs.Console.Opening
import LedgerRules.Proofs.Program.Isolation
import LedgerRules.Proofs.Program.RuleChanges

namespace LedgerRules

/-! ### Storing a rule -/

/-- The request does not write to a table.  Reading from it, or writing to
another one, is allowed. -/
def Request.Spares (table : TableName) : Request → Prop
  | .call c => c.table? ≠ some table
  | _ => True

/-- No request writes to a table.  This is how the first step of `rule add` or
`rule edit` is told from the backfill, which writes to transactions. -/
def Contract.sparing (table : TableName) : Contract where
  allows := Request.Spares table
  promises _ _ := True

namespace Action

variable {user : String} {includeManual : Bool}

/-- What does not write to transactions leaves them as they are. -/
theorem Meets.run_spares {α : Type} {a : Action α} {Q : α → Prop}
    (h : a.Meets (.sparing .transactions) Q) (w : World Database) :
    (a.run w).2.store.transactions = w.store.transactions := by
  refine Program.Meets.run_keeps (I := fun w' : World Database =>
    w'.store.transactions = w.store.transactions) h (fun r w' hw' hr => ⟨trivial, ?_⟩) rfl
  cases r with
  | call c => exact ((w'.store.wrote_answer c).transactions hr).trans hw'
  | record event =>
    show (w'.record event).store.transactions = _
    rw [World.record_store, hw']
  | _ => exact hw'

/-- A call that does not write to the table spares it. -/
theorem call_spares {c : Call} {t : TableName} (h : c.table? ≠ some t) :
    (call c).Meets (.sparing t) fun _ => True := meets_call_any h

/-- The next priority is only asked for. -/
theorem newPriority_spares (t : TableName) (user : String) (priority : Option Int32) :
    (newPriority user priority).Meets (.sparing t) fun _ => True := by
  unfold newPriority
  split
  · exact meets_pure trivial
  · refine (call_spares (c := .maxPriority user) nofun).bind fun greatest _ => ?_
    split
    · exact onePast_meets _
    · exact meets_pure trivial

/-- A rule is only read. -/
theorem getRule_spares (t : TableName) (user : String) (id : Id) :
    (getRule user id).Meets (.sparing t) fun _ => True := by
  unfold getRule
  refine (call_spares (c := .getRule user id) nofun).bind fun found _ => ?_
  split
  · exact meets_pure trivial
  · exact meets_throw

/-- A rule that has been worked out is put behind the others. -/
theorem insertion_spares (user : String) (rule : Rule) (includeManual : Bool) :
    Meets (.sparing .transactions) (do
      refuse rule.complaint?
      call (.insertRule rule)
      record (Event.about Event.ruleCreated rule.id)
      finishChange user rule false includeManual) fun _ => True := by
  have hinsert : (call (.insertRule rule)).Meets (.sparing .transactions) fun _ => True :=
    call_spares nofun
  refine (meets_refuse _).bind fun _ _ => hinsert.bind fun _ _ => ?_
  exact (meets_record trivial).bind fun _ _ => meets_pure trivial

/-- Or it is put in the place of what it was. -/
theorem storeRule_spares (user : String) (rule : Rule) (includeManual : Bool) :
    (storeRule user rule false includeManual).Meets (.sparing .transactions) fun _ => True := by
  have hwrite : ∀ rule, (call (.updateRule rule)).Meets (.sparing .transactions) fun _ => True :=
    fun rule => call_spares nofun
  refine (meets_refuse _).bind fun _ _ => (meets_now trivial).bind fun now _ => ?_
  exact (hwrite _).bind fun _ _ => (meets_record trivial).bind fun _ _ => meets_pure trivial

/-- **A rule is created beside the transactions**, as long as no backfill
follows.  So what a command changes in them is the work of the backfill alone.
-/
theorem createRule_spares (user : String) {new : NewRule} (hb : new.backfill = false)
    (includeManual : Bool) :
    (createRule user new includeManual).Meets (.sparing .transactions) fun _ => True := by
  unfold createRule
  rw [hb]
  have hdraw : freshId.Meets (.sparing .transactions) fun _ => True :=
    ⟨trivial, fun _ _ _ _ => trivial⟩
  refine (checkedConditions_meets _).bind fun conditions _ => ?_
  refine hdraw.bind fun id _ => (meets_now trivial).bind fun now _ => ?_
  refine (newPriority_spares _ _ _).bind fun priority _ => ?_
  generalize new.rule conditions id user priority now = rule
  exact insertion_spares user rule includeManual

/-- So it is changed. -/
theorem updateRule_spares (user : String) (id : Id) {update : RuleUpdate}
    (hb : update.backfill = false) (includeManual : Bool) :
    (updateRule user id update includeManual).Meets (.sparing .transactions) fun _ => True := by
  rw [updateRule_eq]
  refine (getRule_spares _ _ _).bind fun old _ => ?_
  obtain ⟨-, e, he⟩ | ⟨-, he⟩ := changeRule_cases user update includeManual old
  · rw [he]
    exact meets_throw
  · rw [he, hb]
    exact storeRule_spares _ _ _

/-! ### What follows -/

/-- After a rule has been stored, its user's rules are applied to all of their
transactions if a backfill is asked for, and nothing is done if not. -/
def Backfills (user : String) (asked includeManual : Bool) (w w' : World Database) : Prop :=
  if asked then ∃ summary w₁, (applyToExisting user none includeManual).run w = (.ok summary, w₁) ∧
    w'.store = w₁.store
  else w'.store = w.store

/-- A change is finished by a backfill or by nothing. -/
theorem backfills_of_finishChange {rule : Rule} {asked : Bool} {change : RuleChange}
    {w w' : World Database}
    (h : (finishChange user rule asked includeManual).run w = (.ok change, w')) :
    Backfills user asked includeManual w w' := by
  cases asked with
  | false =>
    cases h
    rfl
  | true =>
    obtain ⟨summary, w₁, hbulk, hrest⟩ := exists_of_run_bind h
    obtain ⟨stored, w₂, hread, hlast⟩ := exists_of_run_bind hrest
    have hsame : w₂.store = w₁.store := congrArg (·.2.store) hread.symm
    cases hlast
    exact ⟨summary, w₁, hbulk, hsame⟩

end Action

namespace Console

/-! ### The commands -/

/-- The rule that the arguments of `rule add` ask for, without a backfill.  The
body is JSON by then, but it is not checked. -/
def newRule (args : RuleAdd) (body : Json) : NewRule :=
  { name := args.name, conditions := body, category := args.category, merchant := args.merchant
    priority := args.priority }

/-- The update that the arguments of `rule edit` ask for, without a backfill.  A
flag that clears a target goes before a value for it. -/
def ruleUpdate (args : RuleEdit) (body : Option Json) : RuleUpdate :=
  { name := args.name, conditions := body
    category := if args.clearCategory then .clear else .ofOption args.category
    merchant := if args.clearMerchant then .clear else .ofOption args.merchant
    priority := args.priority }

/-- To store the rule that a command asks for, without a backfill.  There is
nothing to store if an argument cannot be read, or if it is another command. -/
def storing? (settings : Settings) : Task → Option (Action RuleChange)
  | .ruleAdd args => (Json.read? args.conditions).map fun body =>
      Action.createRule settings.user (newRule args body) settings.includeManual
  | .ruleEdit args => do
      let id ← Id.parse? (Text.trim args.id)
      let body ← args.conditions.elim (some none) fun raw => (Json.read? raw).map some
      return Action.updateRule settings.user id (ruleUpdate args body) settings.includeManual
  | _ => none

/-- A command stores a rule, which leaves transactions as they are, and goes on
with a backfill if `asked` says so for the settings in force.  What it leaves in
the database that was opened is what the two steps leave there, and the other
database stays. -/
def StoresThenBackfills (c : Command) (s : Surroundings) (desk : Desk) (asked : Settings → Bool) :
    Prop :=
  ∃ settings d store change w₁ w₂, desk.site.Opens s.env settings d ∧
    storing? settings c.task = some store ∧
    store.run (world (begun c desk) d) = (.ok change, w₁) ∧
    w₁.store.transactions = d.transactions ∧
    Action.Backfills settings.user (asked settings) settings.includeManual w₁ w₂ ∧
    desk.site.Becomes settings.demo w₂.store (run c s desk).2.site

section Commands

variable {c : Command} {s : Surroundings} {desk : Desk} {settings : Settings} {d : Database}
  {asked : Settings → Bool}

/-- A command that has been put on record and has opened the database comes to
its last action, which is to store a rule and to go on with a backfill. -/
theorem storesThenBackfills_of_task {desk' : Desk} {full store : Action RuleChange} {json : Bool}
    {show_ : RuleChange → Output} (hopen : (begun c desk).site.Opens s.env settings d)
    (hbecomes : (begun c desk).site.Becomes settings.demo d desk'.site)
    (hworld : world desk' = world (begun c desk))
    (htask : task c s desk = performAndShow s.env json full show_ desk')
    (hexit : exitOf (task c s desk).1 = 0) (hstore : storing? settings c.task = some store)
    (hspares : store.Meets (.sparing .transactions) fun _ => True)
    (hfull : full = store >>= fun change =>
      Action.finishChange settings.user change.rule (asked settings) settings.includeManual) :
    StoresThenBackfills c s desk asked := by
  subst hfull
  obtain ⟨o, desk'', hshown, hleft, hcode⟩ := performAndShow_of_opens (hbecomes.opens hopen) json
    (store >>= fun change =>
      Action.finishChange settings.user change.rule (asked settings) settings.includeManual) show_
  rw [hworld] at hleft hcode
  rw [htask, hshown] at hexit
  have hdesk : (run c s desk).2 = desk'' := by rw [run_desk, htask, hshown]
  cases hrun : (store >>= fun change => Action.finishChange settings.user change.rule
      (asked settings) settings.includeManual).run (world (begun c desk) d) with
  | mk result w₂ =>
    rw [hrun] at hleft hcode
    cases result with
    | error e => exact absurd hexit hcode
    | ok change' =>
      obtain ⟨change, w₁, hstored, hfinish⟩ := Action.exists_of_run_bind hrun
      have hsame := hspares.run_spares (world (begun c desk) d)
      rw [hstored] at hsame
      refine ⟨settings, d, store, change, w₁, w₂, opens_begun_iff.1 hopen, hstore, hstored, hsame,
        Action.backfills_of_finishChange hfinish, ?_⟩
      rw [hdesk]
      exact becomes_begun (hbecomes.trans hleft)

/-- **A rule is added, and then a backfill follows** if the flag or the setting
asks for it.  The exit code 0 says that both went through. -/
theorem storesThenBackfills_of_add {args : RuleAdd} {json : Bool}
    (h : exitOf (task ⟨.ruleAdd args, json⟩ s desk).1 = 0) :
    StoresThenBackfills ⟨.ruleAdd args, json⟩ s desk fun settings =>
      args.backfill || settings.backfillOnCreate := by
  have hbegun : task ⟨.ruleAdd args, json⟩ s desk =
      ruleAddTask args s json (begun ⟨.ruleAdd args, json⟩ desk) := rfl
  have hexit := h
  rw [hbegun] at h
  obtain ⟨settings, d, desk', hopen, hbecomes, hworld, hopened⟩ := openSettings_of_exit h
  have hopened : ruleAddTask args s json _ = _ := hopened
  rw [hopened] at h
  obtain ⟨body, hbody, hread⟩ := (Step.Reads.readBody json args.conditions).of_exit h
  rw [hread] at hopened
  have hstore : storing? settings (.ruleAdd args) = some (Action.createRule settings.user
      (newRule args body) settings.includeManual) := by
    show (Json.read? args.conditions).map _ = _
    rw [hbody, Option.map_some]
  exact storesThenBackfills_of_task hopen hbecomes hworld (hbegun.trans hopened) hexit hstore
    (Action.createRule_spares _ rfl _)
    (Action.createRule_eq settings.user (newRule args body) _ _)

/-- **A rule is edited, and then a backfill follows** if the flag asks for it.
The setting is not looked at, other than where a rule is added. -/
theorem storesThenBackfills_of_edit {args : RuleEdit} {json : Bool}
    (h : exitOf (task ⟨.ruleEdit args, json⟩ s desk).1 = 0) :
    StoresThenBackfills ⟨.ruleEdit args, json⟩ s desk fun _ => args.backfill := by
  have hbegun : task ⟨.ruleEdit args, json⟩ s desk =
      ruleEditTask args s json (begun ⟨.ruleEdit args, json⟩ desk) := rfl
  have hexit := h
  rw [hbegun] at h
  obtain ⟨settings, d, desk', hopen, hbecomes, hworld, hopened⟩ := openSettings_of_exit h
  have hopened : ruleEditTask args s json _ = _ := hopened
  rw [hopened] at h
  obtain ⟨id, hid, hread⟩ := (Step.Reads.readId args.id).of_exit h
  rw [hread] at hopened h
  obtain ⟨body, hbody, hread⟩ :=
    (Step.Reads.readIf (Step.Reads.readBody json) args.conditions).of_exit h
  rw [hread] at hopened
  have hstore : storing? settings (.ruleEdit args) = some (Action.updateRule settings.user id
      (ruleUpdate args body) settings.includeManual) := by
    unfold storing?
    simp only [hid, hbody, Option.bind_eq_bind, Option.bind_some, Option.pure_def]
  exact storesThenBackfills_of_task hopen hbecomes hworld (hbegun.trans hopened) hexit hstore
    (Action.updateRule_spares _ id rfl _)
    (Action.updateRule_eq_backfill settings.user id (ruleUpdate args body) _ _)

end Commands

end Console

/-! ### The command lines -/

namespace Command

variable {args : List String} {c : Command}

/-- No rule command has an option that takes any value or a short name for
`--backfill`. -/
theorem hasPlainFlag_backfill {name : String} {form : CommandForm}
    (h : form? "rule" name = some form) : form.HasPlainFlag "backfill" := by
  have hforms : ∀ entry ∈ forms, entry.1 = "rule" →
      (∀ o ∈ entry.2.2.options, o.takes ≠ .any) ∧
        ∀ o ∈ entry.2.2.options, o.name = "backfill" → o.takes = .nothing ∧ o.short = none := by
    decide
  obtain ⟨hvalues, hflag⟩ := hforms _ (mem_forms h) rfl
  exact ⟨hvalues, hflag, by decide⟩

/-- The command that `rule add` is, with the backfill as the flag says. -/
theorem task?_add (a : Arguments) : task? "rule" "add" a =
    (valueAs? a "category" Whole.parseInt64?).bind fun category =>
      (valueAs? a "priority" Whole.parseInt32?).bind fun priority =>
        some (.ruleAdd ⟨(a.value? "name").getD "", (a.value? "conditions").getD "", category,
          a.value? "merchant", priority, a.has "backfill"⟩) := rfl

/-- The command that `rule edit` is, with the backfill as the flag says. -/
theorem task?_edit (a : Arguments) : task? "rule" "edit" a =
    (valueAs? a "category" Whole.parseInt64?).bind fun category =>
      (valueAs? a "priority" Whole.parseInt32?).bind fun priority =>
        some (.ruleEdit ⟨a.operand.getD "", a.value? "name", a.value? "conditions", category,
          a.value? "merchant", a.has "clear-category", a.has "clear-merchant", priority,
          a.has "backfill"⟩) := rfl

/-- What `rule add` is asked for: a backfill if the flag stands among the
arguments. -/
theorem ruleAdd_of_ofArguments (h : ofArguments ("rule" :: "add" :: args) = .ok c) :
    ∃ add : RuleAdd, c.task = .ruleAdd add ∧ add.backfill = Arguments.flagged "backfill" args := by
  obtain ⟨form, a, hform, hread, htask⟩ := exists_read_of_ofArguments rfl h
  rw [task?_add] at htask
  obtain ⟨category, -, htask⟩ := Option.bind_eq_some_iff.1 htask
  obtain ⟨priority, -, htask⟩ := Option.bind_eq_some_iff.1 htask
  exact ⟨_, (Option.some.inj htask).symm, Arguments.has_of_read (hasPlainFlag_backfill hform) hread⟩

/-- What `rule edit` is asked for. -/
theorem ruleEdit_of_ofArguments (h : ofArguments ("rule" :: "edit" :: args) = .ok c) :
    ∃ edit : RuleEdit, c.task = .ruleEdit edit ∧
      edit.backfill = Arguments.flagged "backfill" args := by
  obtain ⟨form, a, hform, hread, htask⟩ := exists_read_of_ofArguments rfl h
  rw [task?_edit] at htask
  obtain ⟨category, -, htask⟩ := Option.bind_eq_some_iff.1 htask
  obtain ⟨priority, -, htask⟩ := Option.bind_eq_some_iff.1 htask
  exact ⟨_, (Option.some.inj htask).symm, Arguments.has_of_read (hasPlainFlag_backfill hform) hread⟩

end Command

/-- **A backfill follows where the flag asks for it, and the setting asks only
when adding.** Take any command line of `rule add` or `rule edit` that is
accepted, any site and any surroundings.  If the command ends with the exit code
0, it has opened the database and stored the rule, which leaves transactions as
they were.  Then it has applied the rules of the user to all of their
transactions, to those set by hand as the settings say, if that was asked for,
and done nothing more if not.

* `rule add` is asked by `--backfill` before any `--`, or by the setting in
  force: that of the file, unless the environment replaces it.
* `rule edit` is asked by `--backfill` alone. -/
theorem Console.backfill_asked_by_flag_and_when_adding_by_setting (args : List String) (c : Command)
    (s : Surroundings) (desk : Desk) (hexit : (run c s desk).1.exit = 0) :
    (Command.ofArguments ("rule" :: "add" :: args) = .ok c →
      StoresThenBackfills c s desk fun settings =>
        Arguments.flagged "backfill" args || settings.backfillOnCreate) ∧
    (Command.ofArguments ("rule" :: "edit" :: args) = .ok c →
      StoresThenBackfills c s desk fun _ => Arguments.flagged "backfill" args) := by
  rw [exit_run] at hexit
  obtain ⟨task, json⟩ := c
  constructor
  · intro h
    obtain ⟨add, rfl, hflag⟩ := Command.ruleAdd_of_ofArguments h
    rw [← hflag]
    exact storesThenBackfills_of_add hexit
  · intro h
    obtain ⟨edit, rfl, hflag⟩ := Command.ruleEdit_of_ofArguments h
    rw [← hflag]
    exact storesThenBackfills_of_edit hexit

namespace Sample

/-- Surroundings in which the setting for backfills is on. -/
def eager : Surroundings := { env := { backfill := some "yes" }, directory := "data" }

/-- A site with a purchase and no rules. -/
def storeroom : Desk :=
  { pantry with site.ledger := .present ⟨{}, { transactions := [breadRow] }⟩ }

/-- Arguments that add a rule for bread. -/
def breadArguments : List String :=
  ["--name", "bread", "--conditions", (mentions "bread").compact, "--category", "7"]

/-- The command of these arguments. -/
def addBread : Command :=
  ⟨.ruleAdd ⟨"bread", (mentions "bread").compact, some 7, none, none, false⟩, false⟩

/-- Arguments that give the rule for bakeries another name. -/
def renameArguments : List String := [(Id.mk 3#128).text, "--name", "bakers"]

/-- The command of these arguments. -/
def renameBaker : Command :=
  ⟨.ruleEdit ⟨(Id.mk 3#128).text, some "bakers", none, none, none, false, false, none, false⟩,
    false⟩

/-- The categories of transactions after a command. -/
def categoriesAfter (c : Command) (desk : Desk) : Option (List (Option Int64)) :=
  (Console.run c eager desk).2.site.ledger.rows?.map (·.transactions.map (·.category))

end Sample

/-- With the setting on and without the flag, a purchase gets a category when a
rule for it is added, and it gets none when the rule for it is edited. -/
theorem setting_counts_when_adding_alone : ∃ add edit,
    Command.ofArguments ("rule" :: "add" :: Sample.breadArguments) = .ok add ∧
    Command.ofArguments ("rule" :: "edit" :: Sample.renameArguments) = .ok edit ∧
    Console.StoresThenBackfills add Sample.eager Sample.storeroom (·.backfillOnCreate) ∧
    Sample.categoriesAfter add Sample.storeroom = some [some 7] ∧
    Console.StoresThenBackfills edit Sample.eager Sample.pantry (fun _ => false) ∧
    Sample.categoriesAfter edit Sample.pantry = some [none] := by
  have hadd : Command.ofArguments ("rule" :: "add" :: Sample.breadArguments) =
      .ok Sample.addBread := by decide +kernel
  have hedit : Command.ofArguments ("rule" :: "edit" :: Sample.renameArguments) =
      .ok Sample.renameBaker := by decide +kernel
  obtain ⟨haddExit, haddLeft⟩ :
      (Console.run Sample.addBread Sample.eager Sample.storeroom).1.exit = 0 ∧
      Sample.categoriesAfter Sample.addBread Sample.storeroom = some [some 7] := by
    decide +kernel
  obtain ⟨heditExit, heditLeft⟩ :
      (Console.run Sample.renameBaker Sample.eager Sample.pantry).1.exit = 0 ∧
      Sample.categoriesAfter Sample.renameBaker Sample.pantry = some [none] := by
    decide +kernel
  have hadded :=
    (Console.backfill_asked_by_flag_and_when_adding_by_setting _ _ _ _ haddExit).1 hadd
  have hedited :=
    (Console.backfill_asked_by_flag_and_when_adding_by_setting _ _ _ _ heditExit).2 hedit
  have hnoFlag : Arguments.flagged "backfill" Sample.breadArguments = false ∧
      Arguments.flagged "backfill" Sample.renameArguments = false := by
    decide +kernel
  rw [hnoFlag.1] at hadded
  rw [hnoFlag.2] at hedited
  exact ⟨_, _, hadd, hedit, hadded, haddLeft, hedited, heditLeft⟩

end LedgerRules
