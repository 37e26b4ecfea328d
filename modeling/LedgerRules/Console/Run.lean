/-
# Running commands

A command works on a site.  It puts itself on record, opens the database,
carries out an operation for the user of the settings, and shows what came of
it.  Rule commands are put on record before the database is opened, so also
where it cannot be; the journal may fail to open without harm, save to the
commands that show it.

A command that deletes asks first, unless it is forced or answers in JSON;
without a terminal there is nobody to ask, and it fails.

Embeds the `run` functions of the four groups of commands, with `run_validate`,
`run_set_active`, `parse_body`, `checked`, `report_invalid`, `print_change`,
`print_rules`, `print_tx`, `print_entries`, `print_stats`, `parse_amount`,
`parse_date`, `parse_id` and `parse_ids` (section 16 of the specification, CLI).
-/

import LedgerRules.Console.Command
import LedgerRules.Console.Output
import LedgerRules.Envelope
import LedgerRules.Program.Operation
import LedgerRules.Site.Desk
import LedgerRules.Site.Files

namespace LedgerRules

/-- What a command finds around it: the environment, the name of the directory,
the text of the file it reads if that can be read, and the standard input unless
that is a terminal. -/
structure Surroundings where
  env : Environment := {}
  directory : String
  file : Option String := none
  input : Option String := none

namespace Console

/-- Who makes the entries of commands. -/
def author : Author := { entryPoint := .console, version := "0.1.0" }

/-- Why a command ends early: with a message, or with an output of its own. -/
inductive Failure
  | message (text : String)
  | output (o : Output)

/-- A step of a command. -/
abbrev Step (α : Type) := ExceptT Failure (StateM Desk) α

/-- Ends a command with a message. -/
def failWith {α : Type} (text : String) : Step α := throw (.message text)

/-! ### The site -/

/-- Opens the journal if it can be opened, and puts an event on record in it. -/
def record (event : Option Event) : Step Unit := modify (·.record author event)

/-- Puts a command on record. -/
def recordCommand (c : Command) : Step Unit :=
  record (c.recordedName?.map fun name => { name := Event.commandExecuted, command := some name })

/-- What is said where the database cannot be opened. -/
def cannotOpen : Failure := .message "Failed to initialize tidyline context"

/-- The settings in force. -/
def openSettings (env : Environment) : Step Settings := fun desk =>
  match desk.site.openDatabase? env with
  | none => (.error cannotOpen, desk)
  | some (settings, stored) =>
    (.ok settings, { desk with site := desk.site.withDatabase settings stored })

/-- Carries out an action on the database. -/
def perform {α : Type} (env : Environment) (a : Action α) : Step (Performed α) := fun desk =>
  match desk.perform? env (some author) a with
  | none => (.error cannotOpen, desk)
  | some (performed, desk) => (.ok performed, desk)

/-- The line for a rule that was skipped. -/
def noticeLine (e : Error) : String := s!"[tidyline] Skipping rule: {e.message}"

/-- Ends a command on an error of an operation, the faults of a rule body aside. -/
def errorOutput (notices : List Error) (e : Error) : Output :=
  (Output.fail e.message).complaining (notices.map noticeLine)

/-! ### Reading arguments -/

/-- An identifier. -/
def readId (s : String) : Step Id :=
  match Id.parse? (Text.trim s) with
  | some id => pure id
  | none => failWith s!"Invalid id: {s}"

/-- An amount. -/
def readAmount (s : String) : Step Decimal :=
  match Decimal.parse? (Text.trim s) with
  | some d => pure d
  | none => failWith s!"Invalid amount: {s}"

/-- A date. -/
def readDate (s : String) : Step Date :=
  match Date.parse? false (Text.trim s) with
  | some d => pure d
  | none => failWith "Invalid date format. Use YYYY-MM-DD"

/-- An argument that may be absent. -/
def readIf {α : Type} (read : String → Step α) : Option String → Step (Option α)
  | some s => some <$> read s
  | none => pure none

/-- The identifiers among texts; blank texts count for nothing. -/
def readIds (texts : List String) : Step (List Id) :=
  ((texts.map Text.trim).filter (· != "")).mapM readId

/-! ### Showing -/

/-- The output for a rule body with faults. -/
def invalidOutput (json : Bool) (faults : List Fault) : Output :=
  if json then { Output.sayJson (Verdict.rejected faults).toJson with exit := 1 }
  else
    { exit := 1
      err := Output.ofLines ("Rule body is invalid" ::
        Table.lines ["Field", "Code", "Message"] (faults.map fun f =>
          [f.place.path, f.code.name, f.cause.message])) }

/-- The JSON value of a rule body. -/
def readBody (json : Bool) (raw : String) : Step Json :=
  match Json.read? raw with
  | some body => pure body
  | none => throw (.output (invalidOutput json (Conditions.validateText raw).faults))

/-- A value that was set by hand, marked as such. -/
def marked (value : String) (manual : Bool) : String :=
  if manual && value != "" then value ++ " *" else value

/-- A category as text. -/
def categoryText (category : Option Int64) (absent : String) : String :=
  category.elim absent fun c => toString c.toInt

/-- Shows a rule that was created or changed. -/
def changeLines (title : String) (c : RuleChange) : List String :=
  [s!"✓ {title}", s!"  Rule ID: {c.rule.id.text}", s!"  Name: {c.rule.name}",
    s!"  Priority: {c.rule.priority.toInt}", s!"  Assigns: {c.rule.targetText}"] ++
    match c.backfill with
    | none => []
    | some b => s!"  Existing transactions updated: {b.updated}" ::
        (if b.groupsFailed = 0 then [] else [s!"  {b.groupsFailed} group(s) could not be written"])

/-- Shows rules. -/
def ruleTable (rules : List Rule) : List String :=
  Table.lines ["#", "ID", "Name", "Active", "Assigns", "Conditions", "Applied", "Last applied"]
    (rules.map fun r =>
      [toString r.priority.toInt, r.id.text, r.name, if r.active then "yes" else "no",
        r.targetText, r.conditions.toJson.compact, toString r.timesApplied,
        r.lastAppliedAt.elim "" Instant.minuteText])

/-- Shows accounts. -/
def accountTable (accounts : List Account) : List String :=
  Table.lines ["ID", "Name", "Type", "Bank", "Currency"] (accounts.map fun a =>
    [a.id.text, a.name, a.accountType.getD "", a.bank.getD "", a.currency])

/-- Shows transactions. -/
def transactionTable (transactions : List Transaction) : List String :=
  Table.lines ["Date", "ID", "Amount", "Description", "Merchant", "Category"]
    (transactions.map fun t =>
      [t.date.text, t.id.text, t.amount.toText, t.description.getD "",
        marked (t.merchant.getD "") t.merchantManual,
        marked (categoryText t.category "") t.categoryManual]) ++ ["* set by hand"]

/-- Shows a transaction. -/
def transactionOutput (title : String) (json : Bool) (t : Transaction) : Output :=
  let merchant := marked (t.merchant.getD "-") t.merchantManual
  let category := marked (categoryText t.category "-") t.categoryManual
  if json then .sayJson t.toJson
  else .say [s!"✓ {title}", s!"  Transaction ID: {t.id.text}", s!"  Amount: {t.amount.toText}",
    s!"  Merchant: {merchant}", s!"  Category: {category}"]

/-- Shows a bulk run; one with groups that could not be written is a failure. -/
def summaryOutput (json : Bool) (s : BulkSummary) : Output :=
  let exit := if s.groupsFailed = 0 then 0 else 1
  if json then { Output.sayJson s.toJson with exit }
  else if s.rulesEvaluated = 0 then .say ["No active rules to apply."]
  else { exit, out := Output.ofLines (["✓ Rules applied", s!"  Rules evaluated: {s.rulesEvaluated}",
    s!"  Transactions evaluated: {s.transactionsEvaluated}",
    s!"  Transactions matched: {s.transactionsMatched}", s!"  Transactions updated: {s.updated}"] ++
    if s.groupsFailed = 0 then []
    else [s!"  {s.groupsFailed} group(s) could not be written; see " ++
      "'tidy logs list --event rule_group_update_failed'"]) }

/-- The time of an entry, or its number if that is no time. -/
def timeText (millis : Int) : String :=
  let t : Instant := ⟨millis / 1000, (millis % 1000).toNat * 1000000⟩
  let year := t.date.civil.year
  if Date.minYear ≤ year ∧ year ≤ Date.maxYear then t.secondText else toString millis

/-- Shows entries of the journal. -/
def entryTable (entries : List Entry) : List String :=
  Table.lines ["Time", "Event", "Rule", "Command", "Count", "Error"] (entries.map fun e =>
    [timeText e.timestamp, e.event.name, e.event.rule.getD "", e.event.command.getD "",
      e.event.count.elim "" toString, e.event.error.getD ""])

/-- Shows the totals of the journal. -/
def statsLines (s : JournalTotals) (path : String) (bytes : Nat) : List String :=
  let applied := s.ofEvent Event.rulesApplied
  let failed := s.ofEvent Event.groupFailed
  ["Rule activity", s!"  Rules created: {(s.ofEvent Event.ruleCreated).entries}",
    s!"  Bulk runs: {applied.entries}",
    s!"  Transactions classified by bulk runs: {applied.affected}"] ++
  (if failed.entries = 0 then []
    else [s!"  Failed groups: {failed.entries} ({failed.affected} transactions left unchanged)"]) ++
  (if s.events.isEmpty then []
    else "" :: Table.lines ["Event", "Entries", "Errors", "Affected"] (s.events.map fun t =>
      [t.event, toString t.entries, toString t.errors, toString t.affected])) ++
  ["", s!"{s.entries} entries, {s.errors} with errors. {path} ({Output.sizeText bytes})"]

/-- The written form of the totals of the journal. -/
def statsJson (s : JournalTotals) (path : String) : Json :=
  .object [("total_entries", .ofNat s.entries), ("error_entries", .ofNat s.errors),
    ("events", .arr (s.events.map EventTotals.toJson)), ("database_path", .str path)]

/-! ### Tasks -/

/-- The text of the rule body to validate: an argument, else a file, else the
input. -/
def bodyText (body : Option String) (file : Option String) (s : Surroundings) : Step String :=
  match body, file with
  | some body, _ => pure body
  | none, some path =>
    match s.file with
    | some text => pure text
    | none => failWith s!"Failed to read {path}"
  | none, none =>
    match s.input with
    | some text => pure text
    | none => failWith "No rule body provided. Pass it as an argument, with --file, or on stdin."

/-- Validates a rule body. -/
def validateTask (body : Option String) (file : Option String) (s : Surroundings) (json : Bool) :
    Step Output := do
  let raw ← bodyText body file s
  match Conditions.validateText raw with
  | .rejected faults => return invalidOutput json faults
  | .accepted c =>
    if json then return .sayJson (Verdict.accepted c).toJson
    else return .say ["Rule body is valid", c.toJson.pretty]

/-- Carries out an action and shows its result; where the action breaks off, the
command does. -/
def performAndShow {α : Type} (env : Environment) (json : Bool) (a : Action α)
    (show_ : α → Output) : Step Output := do
  let ⟨result, notices⟩ ← perform env a
  match result with
  | .ok value => return (show_ value).complaining (notices.map noticeLine)
  | .error (.conditions faults) => return invalidOutput json faults
  | .error .overflow =>
    return (Output.breakOff Error.overflow.message).complaining (notices.map noticeLine)
  | .error e => return errorOutput notices e

/-- Creates a rule. -/
def ruleAddTask (args : RuleAdd) (s : Surroundings) (json : Bool) : Step Output := do
  let settings ← openSettings s.env
  let body ← readBody json args.conditions
  let new : NewRule :=
    { name := args.name, conditions := body, category := args.category
      merchant := args.merchant, priority := args.priority
      backfill := args.backfill || settings.backfillOnCreate }
  performAndShow s.env json (Action.createRule settings.user new settings.includeManual) fun c =>
    if json then .sayJson c.toJson else .say (changeLines "Rule created" c)

/-- Changes a rule. -/
def ruleEditTask (args : RuleEdit) (s : Surroundings) (json : Bool) : Step Output := do
  let settings ← openSettings s.env
  let id ← readId args.id
  let body ← readIf (readBody json) args.conditions
  let update : RuleUpdate :=
    { name := args.name, conditions := body
      category := if args.clearCategory then .clear else .ofOption args.category
      merchant := if args.clearMerchant then .clear else .ofOption args.merchant
      priority := args.priority, backfill := args.backfill }
  performAndShow s.env json (Action.updateRule settings.user id update settings.includeManual)
    fun c => if json then .sayJson c.toJson else .say (changeLines "Rule updated" c)

/-- Switches a rule on or off. -/
def setActiveTask (id : String) (active : Bool) (s : Surroundings) (json : Bool) : Step Output := do
  let settings ← openSettings s.env
  let id ← readId id
  performAndShow s.env json (Action.setActive settings.user id active) fun r =>
    if json then .sayJson r.toJson
    else
      let state := if active then "enabled" else "disabled"
      .say [s!"Rule '{r.name}' {state}"]

/-- Deletes a rule. -/
def ruleRemoveTask (id : String) (force : Bool) (s : Surroundings) (json : Bool) :
    Step Output := do
  let settings ← openSettings s.env
  let id ← readId id
  let ⟨found, notices⟩ ← perform s.env (Action.getRule settings.user id)
  match found with
  | .error e => return errorOutput notices e
  | .ok rule =>
    if !force && !json then
      return { Output.fail "IO error: not a terminal" with
        out := Output.ofLines ["", s!"This will delete the rule '{rule.name}'.",
          "Transactions it already classified keep their values.", ""] }
    performAndShow s.env json (Action.deleteRule settings.user rule.id) fun _ =>
      if json then
        .sayJson ((Envelope.ok rule.id).toJson fun id => .object [("rule_id", .str id.text)])
      else .say ["", s!"✓ Rule '{rule.name}' removed", ""]

/-- Applies rules to stored transactions. -/
def ruleApplyTask (texts : List String) (includeManual : Bool) (s : Surroundings) (json : Bool) :
    Step Output := do
  let settings ← openSettings s.env
  let ids ← readIds texts
  performAndShow s.env json (Action.applyToExisting settings.user
    (if ids.isEmpty then none else some ids) (includeManual || settings.includeManual))
    (summaryOutput json)

/-- Shows a list, or says that there is nothing in it. -/
def listOutput {α : Type} (json : Bool) (write : α → Json) (nothing : String)
    (table : List α → List String) (items : List α) : Output :=
  if json then .sayJson (.arr (items.map write))
  else if items.isEmpty then .say [nothing]
  else .say (table items)

/-- Records a transaction. -/
def transactionAddTask (args : TransactionAdd) (settings : Settings) (s : Surroundings)
    (json : Bool) : Step Output := do
  let account ← readId args.account
  let amount ← readAmount args.amount
  let date ← readIf readDate args.date
  let new : NewTransaction :=
    { account, amount, direction := args.direction, description := args.description
      merchant := args.merchant, currency := args.currency, category := args.category, date }
  performAndShow s.env json (Action.addTransaction settings.user new)
    (transactionOutput "Transaction recorded" json)

/-- Edits a transaction. -/
def transactionSetTask (args : TransactionSet) (settings : Settings) (s : Surroundings)
    (json : Bool) : Step Output := do
  let amount ← readIf readAmount args.amount
  let date ← readIf readDate args.date
  let id ← readId args.id
  let update : TransactionUpdate :=
    { amount, description := args.description, merchant := args.merchant
      category := args.category, date, releaseCategory := args.releaseCategory
      releaseMerchant := args.releaseMerchant }
  performAndShow s.env json (Action.updateTransaction settings.user id update)
    (transactionOutput "Transaction updated" json)

/-- Opens the journal for a command that shows it. -/
def openJournal : Step (Stored Journal) := fun desk =>
  match desk.site.openJournal? with
  | none => (.error (.message "the journal cannot be opened"), desk)
  | some stored => (.ok stored, { desk with site := desk.site.withJournal stored })

/-- Shows entries. -/
def logsListTask (args : LogsList) (json : Bool) : Step Output := do
  let stored ← openJournal
  let rule ← readIf readId args.rule
  match stored.content.query ⟨args.event, rule, args.errors, args.limit⟩ with
  | .ok entries => return listOutput json Entry.toJson "No log entries match." entryTable entries
  | .error _ => failWith "the journal cannot be read"

/-- Deletes old entries.  A cutoff before the first date there is cannot be
computed, and the command breaks off. -/
def logsClearTask (days : Nat) (force json : Bool) : Step Output := do
  let stored ← openJournal
  let now ← modifyGet Desk.tick
  let cutoff : Instant := { now with seconds := now.seconds - days * 86400 }
  if cutoff.date.civil.year < Date.minYear then
    return Output.breakOff "the cutoff lies before the first date there is"
  if !force && !json then return Output.fail "IO error: not a terminal"
  let (deleted, journal) := stored.content.prune cutoff
  modify fun desk => { desk with site := desk.site.withJournal { stored with content := journal } }
  if json then return .say [(Json.object [("deleted", .ofNat deleted)]).compact]
  else return .say [s!"Deleted {deleted} log entries"]

/-- Shows totals. -/
def logsStatsTask (s : Surroundings) (json : Bool) : Step Output := do
  let stored ← openJournal
  let path := s!"{s.directory}/{Site.journalName}"
  match stored.content.stats with
  | .ok totals =>
    if json then return .sayJson (statsJson totals path)
    else return .say (statsLines totals path (Site.journalText stored).utf8ByteSize)
  | .error _ => failWith "the journal cannot be read"

/-- Carries out a command. -/
def task (c : Command) (s : Surroundings) : Step Output := do
  let json := c.json
  match c.task with
  | .ruleValidate body file => do recordCommand c; validateTask body file s json
  | .ruleAdd args => do recordCommand c; ruleAddTask args s json
  | .ruleEdit args => do recordCommand c; ruleEditTask args s json
  | .ruleSetActive id active => do recordCommand c; setActiveTask id active s json
  | .ruleRemove id force => do recordCommand c; ruleRemoveTask id force s json
  | .ruleList => do
    recordCommand c
    let settings ← openSettings s.env
    performAndShow s.env json (Action.listRules settings.user)
      (listOutput json Rule.toJson "No rules yet. Create one with 'tidy rule add'." ruleTable)
  | .ruleApply ids includeManual => do recordCommand c; ruleApplyTask ids includeManual s json
  | .accountAdd new => do
    record none
    let settings ← openSettings s.env
    recordCommand c
    performAndShow s.env json (Action.addAccount settings.user new) fun a =>
      if json then .sayJson a.toJson
      else .say ["✓ Account created", s!"  Account ID: {a.id.text}", s!"  Name: {a.name}"]
  | .accountList => do
    record none
    let settings ← openSettings s.env
    performAndShow s.env json (Action.listAccounts settings.user)
      (listOutput json Account.toJson "No accounts yet. Create one with 'tidy account add'."
        accountTable)
  | .transactionAdd args => do
    record none
    let settings ← openSettings s.env
    recordCommand c
    transactionAddTask args settings s json
  | .transactionList account limit => do
    record none
    let settings ← openSettings s.env
    let account ← readIf readId account
    performAndShow s.env json (Action.listTransactions settings.user account (some limit))
      (listOutput json Transaction.toJson "No transactions found." transactionTable)
  | .transactionSet args => do
    record none
    let settings ← openSettings s.env
    recordCommand c
    transactionSetTask args settings s json
  | .logsList args => logsListTask args json
  | .logsClear days force => logsClearTask days force json
  | .logsStats => logsStatsTask s json

/-- What to say where there is no command. -/
def stopOutput : Stop → Output
  | .rejected => { exit := 2, err := Output.ofLines ["Usage: tidy <COMMAND>"] }
  | .help => .say ("Usage: tidy <COMMAND>" :: "" :: "Commands:" ::
      Command.forms.map fun (group, name, _) => s!"  {group} {name}")
  | .version => .say ["tidy 0.1.0"]

/-- Runs a command. -/
def run (c : Command) (s : Surroundings) (desk : Desk) : Output × Desk :=
  match task c s desk with
  | (.ok o, desk) => (o, desk)
  | (.error (.message text), desk) => (.fail text, desk)
  | (.error (.output o), desk) => (o, desk)

end Console
end LedgerRules
