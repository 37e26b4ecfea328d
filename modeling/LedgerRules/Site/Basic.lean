/-
# A directory of data

All data of an installation lie in one directory: the settings, a database, a
second database for the demo mode, and the journal.  A file may be missing, and
then opening creates it; it may also hold something else, and then it cannot be
opened.  Opening runs the pending migrations.

Embeds the files below the directory of `get_tidyline_dir`: the settings
(section 12 of the specification), the database or that of the demo mode
(section 17), and the database of the logs (section 10), each opened as
`DuckDbRepository.new` and `LoggingService.new` do.
-/

import LedgerRules.Journal.Basic
import LedgerRules.Migration
import LedgerRules.Settings
import LedgerRules.Store.Database.Basic

namespace LedgerRules

/-- Content with the schema it is kept under. -/
structure Stored (α : Type) where
  schema : Schema
  content : α

/-- A data file.  An `alien` one has other content and cannot be opened. -/
inductive DataFile (α : Type)
  | absent
  | alien (text : String)
  | present (stored : Stored α)

/-- A directory of data, with the files that a command may read and write. -/
structure Site where
  settings : TextFile := .absent
  ledger : DataFile Database := .absent
  demo : DataFile Database := .absent
  journal : DataFile Journal := .absent

namespace DataFile

/-- The content of a data file once it is opened. -/
def open? {α : Type} (set : List Migration) (empty : α) : DataFile α → Option (Stored α)
  | absent => some ⟨(Migration.run set {}).2, empty⟩
  | alien _ => none
  | present s => some { s with schema := (Migration.run set s.schema).2 }

/-- Whether there is a file. -/
def isPresent {α : Type} : DataFile α → Bool
  | absent => false
  | _ => true

end DataFile

namespace Site

/-- The names of the files. -/
def settingsName : String := "settings.json"

/-- The name of the file of the database. -/
def ledgerName : String := "tidyline.duckdb"

/-- The name of the file of the demo database. -/
def demoName : String := "demo.duckdb"

/-- The name of the file of the journal. -/
def journalName : String := "logs.duckdb"

/-- Opens the journal. -/
def openJournal? (s : Site) : Option (Stored Journal) :=
  s.journal.open? Migration.journalSet {}

/-- The site with another journal. -/
def withJournal (s : Site) (stored : Stored Journal) : Site :=
  { s with journal := .present stored }

/-- Reads the settings and opens the database that they choose.  A file that is
missing is made by it, and pending migrations are run. -/
def openDatabase? (s : Site) (env : Environment) : Option (Settings × Stored Database) := do
  let settings := (← Settings.load? s.settings).override env
  let stored ← (if settings.demo then s.demo else s.ledger).open? Migration.ledgerSet {}
  return (settings, stored)

/-- The site with another database in place of the one that settings choose. -/
def withDatabase (s : Site) (settings : Settings) (stored : Stored Database) : Site :=
  if settings.demo then { s with demo := .present stored }
  else { s with ledger := .present stored }

end Site
end LedgerRules
