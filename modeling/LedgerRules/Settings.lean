/-
# Settings

Settings are kept as a JSON object with two sections:

| section | member | meaning |
| --- | --- | --- |
| `app` | `userId` | the user everything belongs to |
| `app` | `demoMode` | work on the demo database |
| `rules` | `backfillOnCreate` | a new rule is applied to stored transactions |
| `rules` | `includeManuallySet` | bulk runs touch what was set by hand |

Every member may be left out.  A text that is no such object counts as one
without members, as a whole: that is a text that is not JSON, a member of the
wrong type, a flag or a section that is null, and a member of the table that
stands twice.  Members that are not in the table are kept when settings are
saved.

Where settings are written, the members of the table stand first in every
object, in the order of the table, `app` before `rules`.  The others come behind
them in an order that is left open (`MemberOrder`).

Embeds `Config` with `load`, `load_file`, `apply_overrides` and `save`, and
`read_settings`, `parse_flag`, `SettingsFile`, `AppSettings` and `RuleSettings`
(section 12 of the specification, Configuration).  The members outside the table
are those that the two sections and the file collect as `other`.
-/

import LedgerRules.Arrangement
import LedgerRules.Json.Reader
import LedgerRules.Json.Writer
import LedgerRules.Text.Blank

namespace LedgerRules

/-- The settings in force, each with its default.  `user` is whose data commands
work on. -/
structure Settings where
  user : String := "local"
  demo : Bool := false
  backfillOnCreate : Bool := false
  includeManual : Bool := false
  deriving DecidableEq, Repr

/-- A file that should hold text: there may be none, and it may hold something
else. -/
inductive TextFile
  | absent
  | unreadable
  | text (content : String)
  deriving DecidableEq, Repr

/-- The text of a file, or none if there is no file, where it can be read. -/
def TextFile.content? : TextFile → Option (Option String)
  | absent => some none
  | unreadable => none
  | text content => some (some content)

/-- Values from outside that settings give way to: `TIDYLINE_USER_ID` and
`TIDYLINE_BACKFILL`. -/
structure Environment where
  user : Option String := none
  backfill : Option String := none
  deriving DecidableEq, Repr

/-- The section `app`, with the members it does not know.  These are a flattened
map beside its own fields. -/
structure AppSection where
  user : Option String := none
  demo : Bool := false
  others : List (String × Json) := []

/-- The section `rules`, with the members it does not know. -/
structure RulesSection where
  backfillOnCreate : Bool := false
  includeManual : Bool := false
  others : List (String × Json) := []

/-- The text of settings, understood.  It is what is needed to write the file
again without losing what is in it. -/
structure SettingsDocument where
  app : AppSection := {}
  rules : RulesSection := {}
  others : List (String × Json) := []

/-- The order in which the members that settings do not know are written, object
by object.  It may be another one for every writing. -/
structure MemberOrder where
  app : Arrangement (String × Json) := .asGiven
  rules : Arrangement (String × Json) := .asGiven
  top : Arrangement (String × Json) := .asGiven

namespace SettingsDocument

/-- Reads a member that may be left out but may not stand twice, which is how
fields with a default are read. -/
def own? {α : Type} (members : List (String × Json)) (key : String) (value : α)
    (read? : Json → Option α) : Option α :=
  match members.filter (·.1 == key) with
  | [] => some value
  | [(_, j)] => read? j
  | _ => none

/-- The members that a section does not know, settled: of a repeated key the
last one, in ascending order. -/
def foreign (members : List (String × Json)) (own : List String) : List (String × Json) :=
  Json.settleMembers (members.filter fun (key, _) => !own.contains key) []

/-- Reads a truth value. -/
def flag? : Json → Option Bool
  | .bool b => some b
  | _ => none

/-- Reads a text or null. -/
def textOrNull? : Json → Option (Option String)
  | .str s => some (some s)
  | .null => some none
  | _ => none

/-- Reads the section `app`. -/
def app? : Json → Option AppSection
  | .obj members => do
    let user ← own? members "userId" none textOrNull?
    let demo ← own? members "demoMode" false flag?
    return ⟨user, demo, foreign members ["userId", "demoMode"]⟩
  | _ => none

/-- Reads the section `rules`. -/
def rules? : Json → Option RulesSection
  | .obj members => do
    let backfill ← own? members "backfillOnCreate" false flag?
    let includeManual ← own? members "includeManuallySet" false flag?
    return ⟨backfill, includeManual, foreign members ["backfillOnCreate", "includeManuallySet"]⟩
  | _ => none

/-- Reads settings with all members as they were written. -/
def ofJson? : Json → Option SettingsDocument
  | .obj members => do
    let app ← own? members "app" {} app?
    let rules ← own? members "rules" {} rules?
    return ⟨app, rules, foreign members ["app", "rules"]⟩
  | _ => none

/-- Reads the text of settings; an absent text is one without members.  So is a
text that cannot be understood, whatever is in it. -/
def ofText (text : Option String) : SettingsDocument :=
  ((text.bind Json.readRaw?).bind ofJson?).getD {}

/-- The members of `app` that settings know, as they are written; a user that
there is not is left out. -/
def knownOfApp (d : SettingsDocument) : List (String × Json) :=
  (d.app.user.map fun s => ("userId", Json.str s)).toList ++ [("demoMode", .bool d.app.demo)]

/-- The members of `rules` that settings know, as they are written. -/
def knownOfRules (d : SettingsDocument) : List (String × Json) :=
  [("backfillOnCreate", .bool d.rules.backfillOnCreate),
    ("includeManuallySet", .bool d.rules.includeManual)]

/-- The written form, with the members that settings do not know in a given
order. -/
def toJson (order : MemberOrder) (d : SettingsDocument) : Json :=
  .obj ([("app", .obj (d.knownOfApp ++ order.app.order d.app.others)),
    ("rules", .obj (d.knownOfRules ++ order.rules.order d.rules.others))] ++
      order.top.order d.others)

end SettingsDocument

namespace Settings

/-- The settings of a document; a blank user is the default one. -/
def ofDocument (d : SettingsDocument) : Settings :=
  { user := (d.app.user.filter (!Text.isBlankText ·)).getD "local"
    demo := d.app.demo
    backfillOnCreate := d.rules.backfillOnCreate
    includeManual := d.rules.includeManual }

/-- The settings of a text. -/
def ofText (text : Option String) : Settings := ofDocument (.ofText text)

/-- The settings in a file that can be read. -/
def load? (file : TextFile) : Option Settings := file.content?.map ofText

/-- The flag that a text stands for (`parse_flag`).  Letters of mixed case do
not count. -/
def flag? (text : String) : Option Bool :=
  if ["true", "1", "yes", "TRUE", "YES"].contains text then some true
  else if ["false", "0", "no", "FALSE", "NO"].contains text then some false
  else none

/-- The settings where they give way to the environment; a blank user and a text
that is no flag leave them as they are. -/
def override (s : Settings) (env : Environment) : Settings :=
  { s with
    user := (env.user.filter (!Text.isBlankText ·)).getD s.user
    backfillOnCreate := (env.backfill.bind flag?).getD s.backfillOnCreate }

/-- The document with the settings in it. -/
def document (s : Settings) (d : SettingsDocument) : SettingsDocument :=
  { d with
    app := { d.app with user := some s.user, demo := s.demo }
    rules := { d.rules with
      backfillOnCreate := s.backfillOnCreate
      includeManual := s.includeManual } }

/-- The text of settings that are saved over another text (`Config.save`).  That
text is read again, for the members that settings do not know. -/
def save (s : Settings) (order : MemberOrder) (text : Option String) : String :=
  ((s.document (.ofText text)).toJson order).pretty

/-- The text of settings that are saved over a file that can be read. -/
def saveOver? (s : Settings) (order : MemberOrder) (file : TextFile) : Option String :=
  file.content?.map (s.save order)

end Settings
end LedgerRules
