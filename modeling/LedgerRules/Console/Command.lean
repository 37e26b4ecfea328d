/-
# Commands

What can be asked for on a command line.  A command line names a group and a
command in it, and the arguments follow.

| group | commands |
| --- | --- |
| `rule` | `validate`, `add`, `edit`, `enable`, `disable`, `remove`, `list`, `apply` |
| `account` | `add`, `list` |
| `tx` | `add`, `list`, `set` |
| `logs` | `list`, `clear`, `stats` |

Numbers are read here; identifiers, amounts and dates stay texts, because the
command itself says what is wrong with them.

Embeds `Cli` and `Commands`, and `RuleCommands`, `AccountCommands`, `TxCommands`
and `LogsCommands` with their options, short names and default values (section
16 of the specification, CLI).
-/

import LedgerRules.Account
import LedgerRules.Console.Arguments
import LedgerRules.Number.Whole

namespace LedgerRules

/-- The arguments of `rule add`. -/
structure RuleAdd where
  name : String
  conditions : String
  category : Option Int64
  merchant : Option String
  priority : Option Int32
  backfill : Bool
  deriving DecidableEq, Repr

/-- The arguments of `rule edit`. -/
structure RuleEdit where
  id : String
  name : Option String
  conditions : Option String
  category : Option Int64
  merchant : Option String
  clearCategory : Bool
  clearMerchant : Bool
  priority : Option Int32
  backfill : Bool
  deriving DecidableEq, Repr

/-- The arguments of `tx add`. -/
structure TransactionAdd where
  account : String
  amount : String
  description : Option String
  merchant : Option String
  category : Option Int64
  direction : Option Int32
  date : Option String
  currency : Option String
  deriving DecidableEq, Repr

/-- The arguments of `tx set`. -/
structure TransactionSet where
  id : String
  category : Option Int64
  merchant : Option String
  description : Option String
  amount : Option String
  date : Option String
  releaseCategory : Bool
  releaseMerchant : Bool
  deriving DecidableEq, Repr

/-- The arguments of `logs list`. -/
structure LogsList where
  limit : Nat
  errors : Bool
  event : Option String
  rule : Option String
  deriving DecidableEq, Repr

/-- What a command does. -/
inductive Task
  | ruleValidate (body file : Option String)
  | ruleAdd (args : RuleAdd)
  | ruleEdit (args : RuleEdit)
  | ruleSetActive (id : String) (active : Bool)
  | ruleRemove (id : String) (force : Bool)
  | ruleList
  | ruleApply (ids : List String) (includeManual : Bool)
  | accountAdd (new : NewAccount)
  | accountList
  | transactionAdd (args : TransactionAdd)
  | transactionList (account : Option String) (limit : Nat)
  | transactionSet (args : TransactionSet)
  | logsList (args : LogsList)
  | logsClear (olderThanDays : Nat) (force : Bool)
  | logsStats
  deriving DecidableEq, Repr

/-- A command: what to do, and whether to answer in JSON. -/
structure Command where
  task : Task
  json : Bool
  deriving DecidableEq, Repr

namespace Command

/-- An option without a value. -/
def flag (name : String) (short : Option Char) : OptionForm := { name, takes := .nothing, short }

/-- The option that every command has. -/
def jsonFlag : OptionForm := flag "json" none

/-- The commands of every group with their forms. -/
def forms : List (String × String × CommandForm) :=
  [("rule", "validate", ⟨.optional, [{ name := "file", short := some 'f' }, jsonFlag]⟩),
    ("rule", "add", ⟨.absent,
      [{ name := "name", required := true }, { name := "conditions", required := true },
        { name := "category" }, { name := "merchant" }, { name := "priority" },
        flag "backfill" none, jsonFlag]⟩),
    ("rule", "edit", ⟨.required,
      [{ name := "name" }, { name := "conditions" },
        { name := "category", excludes := some "clear-category" },
        { name := "merchant", excludes := some "clear-merchant" },
        flag "clear-category" none, flag "clear-merchant" none, { name := "priority" },
        flag "backfill" none, jsonFlag]⟩),
    ("rule", "enable", ⟨.required, [jsonFlag]⟩),
    ("rule", "disable", ⟨.required, [jsonFlag]⟩),
    ("rule", "remove", ⟨.required, [flag "force" (some 'f'), jsonFlag]⟩),
    ("rule", "list", ⟨.absent, [jsonFlag]⟩),
    ("rule", "apply", ⟨.absent,
      [{ name := "ids", takes := .several }, flag "include-manual" none, jsonFlag]⟩),
    ("account", "add", ⟨.required,
      [{ name := "type" }, { name := "bank" }, { name := "currency" }, jsonFlag]⟩),
    ("account", "list", ⟨.absent, [jsonFlag]⟩),
    ("tx", "add", ⟨.absent,
      [{ name := "account", required := true },
        { name := "amount", takes := .any, required := true }, { name := "description" },
        { name := "merchant" }, { name := "category" }, { name := "direction" },
        { name := "date" }, { name := "currency" }, jsonFlag]⟩),
    ("tx", "list", ⟨.absent,
      [{ name := "account" }, { name := "limit", short := some 'l' }, jsonFlag]⟩),
    ("tx", "set", ⟨.required,
      [{ name := "category", excludes := some "release-category" },
        { name := "merchant", excludes := some "release-merchant" }, { name := "description" },
        { name := "amount", takes := .any }, { name := "date" },
        flag "release-category" none, flag "release-merchant" none, jsonFlag]⟩),
    ("logs", "list", ⟨.absent,
      [{ name := "limit", short := some 'l' }, flag "errors" none, { name := "event" },
        { name := "rule" }, jsonFlag]⟩),
    ("logs", "clear", ⟨.absent,
      [{ name := "older-than-days" }, flag "force" (some 'f'), jsonFlag]⟩),
    ("logs", "stats", ⟨.absent, [jsonFlag]⟩)]

/-- The form of a command. -/
def form? (group name : String) : Option CommandForm :=
  (forms.find? fun (g, n, _) => g == group && n == name).map (·.2.2)

/-- Whether there is a group of a name. -/
def isGroup (group : String) : Bool := forms.any (·.1 == group)

/-- Whether there is help on a path: on everything, on a group, or on a command. -/
def hasHelp : List String → Bool
  | [] => true
  | [group] => isGroup group || group == "help"
  | [group, name] => isGroup group && ((form? group name).isSome || name == "help")
  | _ => false

/-- What to do about a request for help on a path. -/
def helpOn (path : List String) : Stop := if hasHelp path then .help else .rejected

/-- Reads the value of an option, if it was given. -/
def valueAs? {α : Type} (a : Arguments) (name : String) (read? : String → Option α) :
    Option (Option α) :=
  match a.value? name with
  | some s => (read? s).map some
  | none => some none

/-- What the arguments of a command ask for. -/
def task? (group name : String) (a : Arguments) : Option Task := do
  let operand := a.operand.getD ""
  match group, name with
  | "rule", "validate" =>
    let file ← valueAs? a "file" fun path => if path = "" then none else some path
    return .ruleValidate a.operand file
  | "rule", "add" =>
    let category ← valueAs? a "category" Whole.parseInt64?
    let priority ← valueAs? a "priority" Whole.parseInt32?
    return .ruleAdd ⟨(a.value? "name").getD "", (a.value? "conditions").getD "", category,
      a.value? "merchant", priority, a.has "backfill"⟩
  | "rule", "edit" =>
    let category ← valueAs? a "category" Whole.parseInt64?
    let priority ← valueAs? a "priority" Whole.parseInt32?
    return .ruleEdit ⟨operand, a.value? "name", a.value? "conditions", category,
      a.value? "merchant", a.has "clear-category", a.has "clear-merchant", priority,
      a.has "backfill"⟩
  | "rule", "enable" => return .ruleSetActive operand true
  | "rule", "disable" => return .ruleSetActive operand false
  | "rule", "remove" => return .ruleRemove operand (a.has "force")
  | "rule", "list" => return .ruleList
  | "rule", "apply" => return .ruleApply (a.values "ids") (a.has "include-manual")
  | "account", "add" =>
    return .accountAdd ⟨operand, a.value? "type", a.value? "bank", a.value? "currency"⟩
  | "account", "list" => return .accountList
  | "tx", "add" =>
    let category ← valueAs? a "category" Whole.parseInt64?
    let direction ← valueAs? a "direction" Whole.parseInt32?
    return .transactionAdd ⟨(a.value? "account").getD "", (a.value? "amount").getD "",
      a.value? "description", a.value? "merchant", category, direction, a.value? "date",
      a.value? "currency"⟩
  | "tx", "list" =>
    let limit ← valueAs? a "limit" (Whole.parseBelow? 18446744073709551616)
    return .transactionList (a.value? "account") (limit.getD 50)
  | "tx", "set" =>
    let category ← valueAs? a "category" Whole.parseInt64?
    return .transactionSet ⟨operand, category, a.value? "merchant", a.value? "description",
      a.value? "amount", a.value? "date", a.has "release-category", a.has "release-merchant"⟩
  | "logs", "list" =>
    let limit ← valueAs? a "limit" (Whole.parseBelow? 18446744073709551616)
    return .logsList ⟨limit.getD 50, a.has "errors", a.value? "event", a.value? "rule"⟩
  | "logs", "clear" =>
    let days ← valueAs? a "older-than-days" (Whole.parseIn? 0 4294967295)
    return .logsClear ((days.map Int.toNat).getD 30) (a.has "force")
  | "logs", "stats" => return .logsStats
  | _, _ => none

/-- The command of a group and the arguments behind it. -/
def ofGroup (group : String) : List String → Except Stop Command
  | [] => .error .rejected
  | name :: args =>
    match form? group name with
    | some form =>
      match Arguments.read form args with
      | .error stop => .error stop
      | .ok a =>
        match task? group name a with
        | some task => .ok ⟨task, a.has "json"⟩
        | none => .error .rejected
    | none =>
      if name = "help" then .error (helpOn (group :: args))
      else .error (if ["--help", "-h"].contains name then .help else .rejected)

/-- The command of a command line. -/
def ofArguments : List String → Except Stop Command
  | [] => .error .rejected
  | group :: args =>
    if isGroup group then ofGroup group args
    else if group = "help" then .error (helpOn args)
    else if ["--help", "-h"].contains group then .error .help
    else if ["--version", "-V"].contains group then .error .version
    else .error .rejected

/-- The file that a command reads. -/
def fileToRead (c : Command) : Option String :=
  match c.task with
  | .ruleValidate none file => file
  | _ => none

/-- Whether a command reads the standard input. -/
def readsInput (c : Command) : Bool :=
  match c.task with
  | .ruleValidate none none => true
  | _ => false

/-- The name a command is put on record by, if it is. -/
def recordedName? (c : Command) : Option String :=
  match c.task with
  | .ruleValidate _ _ => some "rule validate"
  | .ruleAdd _ => some "rule add"
  | .ruleEdit _ => some "rule edit"
  | .ruleSetActive _ active => some (if active then "rule enable" else "rule disable")
  | .ruleRemove _ _ => some "rule remove"
  | .ruleList => some "rule list"
  | .ruleApply _ _ => some "rule apply"
  | .accountAdd _ => some "account add"
  | .transactionAdd _ => some "tx add"
  | .transactionSet _ => some "tx set"
  | _ => none

end Command
end LedgerRules
