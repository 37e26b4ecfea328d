/-
# Migrations

A schema is the tables of a database, with a table that names the migrations
applied so far.  A migration is a list of statements that create something
unless it is there; once they are through, its name is recorded.  The first
migration of every set creates the table of names itself, so it is run only
where that table is missing.

`steps` lists what a run does, one atomic step after another, which also says
what is left behind by a run that is cut short.

Embeds `MigrationService` with `run_pending`, `get_applied`, `get_pending`,
`migrations_table_exists` and `apply`, and its two sets of scripts, `MIGRATIONS`
and `LOG_MIGRATIONS` (section 17 of the specification, Persistence).
`BOOTSTRAP` is the first script of either set.
-/

namespace LedgerRules

/-- A statement of a migration. -/
inductive Statement
  | createTable (name : String)
  | createSequence (name : String)
  | createIndex (name : String)
  deriving DecidableEq, Repr

/-- A named list of statements. -/
structure Migration where
  name : String
  statements : List Statement
  deriving DecidableEq, Repr

/-- What there is in a database, and the names of the migrations applied.  No
row is part of it. -/
structure Schema where
  tables : List String := []
  sequences : List String := []
  indexes : List String := []
  applied : List String := []
  deriving DecidableEq, Repr

/-- What a run of migrations did. -/
structure MigrationSummary where
  applied : List String
  alreadyApplied : Nat
  deriving DecidableEq, Repr

/-- One atomic step of a run.  A run that is cut short has made some number of
them. -/
inductive MigrationStep
  | execute (statement : Statement)
  | record (name : String)
  deriving DecidableEq, Repr

namespace Schema

/-- The table of names. -/
def namesTable : String := "sys_migrations"

/-- Whether the table of names is there. -/
def hasNames (s : Schema) : Bool := s.tables.contains namesTable

/-- Adds a name unless it is there. -/
def addNew (name : String) (names : List String) : List String :=
  if names.contains name then names else names ++ [name]

/-- Carries out a statement.  All of them create what is not there yet and leave
what is. -/
def execute (s : Schema) : Statement → Schema
  | .createTable name => { s with tables := addNew name s.tables }
  | .createSequence name => { s with sequences := addNew name s.sequences }
  | .createIndex name => { s with indexes := addNew name s.indexes }

/-- Carries out a step. -/
def perform (s : Schema) : MigrationStep → Schema
  | .execute statement => s.execute statement
  | .record name => { s with applied := s.applied ++ [name] }

/-- Carries out steps one after another. -/
def performAll (s : Schema) (steps : List MigrationStep) : Schema := steps.foldl perform s

/-- The names of the migrations applied, in ascending order, where there is a
table of them. -/
def appliedNames? (s : Schema) : Option (List String) :=
  if s.hasNames then some (s.applied.mergeSort fun a b => !(b < a)) else none

/-- Records a name by hand, if there is a table of names; whether it was new. -/
def mark? (s : Schema) (name : String) : Option (Bool × Schema) :=
  if !s.hasNames then none
  else if s.applied.contains name then some (false, s)
  else some (true, { s with applied := s.applied ++ [name] })

end Schema

namespace Migration

/-- The name of the migration that creates the table of names. -/
def bootstrapName : String := "000_migrations.sql"

/-- The migration that creates the table of names. -/
def bootstrap : Migration := ⟨bootstrapName, [.createTable Schema.namesTable]⟩

/-- The migrations of the database of accounts, transactions and rules. -/
def ledgerSet : List Migration :=
  [bootstrap, ⟨"001_initial_schema.sql",
    [.createTable "sys_accounts", .createTable "sys_transactions", .createTable "sys_rules"]⟩]

/-- The migrations of the journal. -/
def journalSet : List Migration :=
  [bootstrap, ⟨"001_initial_schema.sql",
    [.createSequence "seq_sys_logs", .createTable "sys_logs",
      .createIndex "idx_sys_logs_timestamp", .createIndex "idx_sys_logs_rule"]⟩]

/-- The steps of one migration. -/
def steps (m : Migration) : List MigrationStep :=
  m.statements.map .execute ++ [.record m.name]

/-- The migrations a run begins with: the one that creates the table of names,
where that is missing.  Where the table is there this one is never looked at
again. -/
def opening (set : List Migration) (s : Schema) : List Migration :=
  if s.hasNames then [] else (set.find? (·.name == bootstrapName)).toList

/-- The migrations a run goes on with: those whose names are not among the names
recorded by then. -/
def remaining (set : List Migration) (applied : List String) : List Migration :=
  set.filter fun m => m.name != bootstrapName && !applied.contains m.name

/-- All steps of a run: for each migration its statements, and then its name is
recorded. -/
def runSteps (set : List Migration) (s : Schema) : List MigrationStep :=
  let first := (opening set s).flatMap steps
  first ++ (remaining set (s.performAll first).applied).flatMap steps

/-- Runs the migrations that are pending (`MigrationService.run_pending`), and
tells which they were. -/
def run (set : List Migration) (s : Schema) : MigrationSummary × Schema :=
  let first := opening set s
  let opened := s.performAll (first.flatMap steps)
  let rest := remaining set opened.applied
  (⟨(first ++ rest).map (·.name), opened.applied.length - first.length⟩,
    s.performAll (runSteps set s))

/-- The names of the migrations not yet applied, where there is a table of
names. -/
def pending? (set : List Migration) (s : Schema) : Option (List String) :=
  if s.hasNames then some ((set.map (·.name)).filter (!s.applied.contains ·)) else none

end Migration
end LedgerRules
