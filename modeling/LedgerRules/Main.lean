/-
# The program

Reads the data directory into a site, runs the command on it, and writes back
what the command left.  The directory is the one that `TIDYLINE_DIR` names, or
`.tidyline` in the home directory.

Embeds `main` and the first half of `run` of the binary `tidy` (section 16 of
the specification, CLI), with `get_tidyline_dir`.  The data files are of our own
form (`LedgerRules.Site.Files`).
-/

import LedgerRules.Console.Run
import Std.Time.DateTime.Timestamp

namespace LedgerRules

/-- The text of a file; a file that cannot be read as text is told from one that
is not there. -/
def readTextFile (path : String) : IO TextFile := do
  try
    match String.fromUTF8? (← IO.FS.readBinFile path) with
    | some content => return .text content
    | none => return .unreadable
  catch
    | .noFileOrDirectory _ _ _ => return .absent
    | _ => return .unreadable

/-- The data file at a path. -/
def readDataFile {α : Type} (read? : String → Option (Stored α)) (path : String) :
    IO (DataFile α) := do
  match ← readTextFile path with
  | .absent => return .absent
  | .unreadable => return .alien ""
  | .text content => return Site.fileOfText read? content

/-- Writes a data file, unless it is absent or holds something else. -/
def writeDataFile {α : Type} (write : Stored α → String) (path : String) : DataFile α → IO Unit
  | .present s => IO.FS.writeFile path (write s)
  | _ => return ()

/-- The site in a directory. -/
def readSite (directory : String) : IO Site := do
  let settings ← readTextFile s!"{directory}/{Site.settingsName}"
  let ledger ← readDataFile Site.readDatabase? s!"{directory}/{Site.ledgerName}"
  let demo ← readDataFile Site.readDatabase? s!"{directory}/{Site.demoName}"
  let journal ← readDataFile Site.readJournal? s!"{directory}/{Site.journalName}"
  return ⟨settings, ledger, demo, journal⟩

/-- Writes a site into a directory. -/
def writeSite (directory : String) (s : Site) : IO Unit := do
  IO.FS.createDirAll directory
  writeDataFile Site.databaseText s!"{directory}/{Site.ledgerName}" s.ledger
  writeDataFile Site.databaseText s!"{directory}/{Site.demoName}" s.demo
  writeDataFile Site.journalText s!"{directory}/{Site.journalName}" s.journal

/-- The data directory. -/
def dataDirectory : IO String := do
  match ← IO.getEnv "TIDYLINE_DIR" with
  | some directory => return directory
  | none =>
    let home := (← IO.getEnv "HOME").getD "."
    return s!"{home}/.tidyline"

/-- The present time. -/
def presentTime : IO Instant := do
  let nanos := (← Std.Time.Timestamp.now).toNanosecondsSinceUnixEpoch.toInt
  return ⟨nanos / 1000000000, (nanos % 1000000000).toNat⟩

/-- A supply that starts at the present time, a microsecond from reading to
reading, with identifiers that start at a random one. -/
def presentSupply : IO Supply := do
  let start := (← presentTime).micros
  let seed := (← IO.getRandomBytes 16).foldl (fun n b => n * 256 + b.toNat) 0
  return { clock := fun n => .ofMicros (start + n), ids := fun n => .ofSeed (seed + n) }

/-- Writes text to a stream. -/
def emit (stream : IO.FS.Stream) (text : String) : IO Unit := do
  stream.putStr text
  stream.flush

/-- Runs a command on the data directory. -/
def runOnDirectory (c : Command) : IO Output := do
  let directory ← dataDirectory
  let env : Environment := ⟨← IO.getEnv "TIDYLINE_USER_ID", ← IO.getEnv "TIDYLINE_BACKFILL"⟩
  let file ← match c.fileToRead with
    | some path => TextFile.content? <$> readTextFile path
    | none => pure none
  let stdin ← IO.getStdin
  let input ← if c.readsInput && !(← stdin.isTty) then some <$> stdin.readToEnd else pure none
  let desk : Desk := ⟨← readSite directory, ← presentSupply⟩
  let (output, desk) := Console.run c { env, directory, file := file.join, input } desk
  writeSite directory desk.site
  return output

end LedgerRules

open LedgerRules in
/-- Runs the command that the arguments name. -/
def main (args : List String) : IO UInt32 := do
  let output ← match Command.ofArguments args with
    | .ok c => runOnDirectory c
    | .error stop => pure (Console.stopOutput stop)
  emit (← IO.getStdout) output.out
  emit (← IO.getStderr) output.err
  return output.exit.toUInt32
