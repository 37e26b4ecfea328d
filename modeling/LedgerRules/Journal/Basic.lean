/-
# The journal

The journal keeps events as entries.  An entry has a number, the time it was
made in milliseconds, and who made it.  Numbers are given out in ascending order
and never twice, also after entries were deleted.

`query` returns the newest entries that fit a filter, `stats` counts entries by
event, and `prune` deletes the entries made before a time.

Embeds `LoggingService` with `log`, `query`, `stats` and `prune`, and
`LogEntry`, `LogFilter`, `LogStats` and `EventCount` (section 10 of the
specification, Logging), over the table `sys_logs`.
-/

import LedgerRules.Journal.Event

namespace LedgerRules

/-- Who drives the program. -/
inductive EntryPoint
  | console
  | library
  deriving DecidableEq, Repr

/-- Who makes the entries. -/
structure Author where
  entryPoint : EntryPoint
  version : String
  platform : String := "linux"
  deriving DecidableEq, Repr

/-- An event on record, stamped with its time in milliseconds and with who made
it. -/
structure Entry where
  id : Int
  timestamp : Int
  entryPoint : String
  version : String
  platform : String
  event : Event
  deriving DecidableEq, Repr

/-- The journal.  Entries stand in the order in which they were made, with
numbers from a sequence that goes on. -/
structure Journal where
  entries : List Entry := []
  nextId : Nat := 1
  deriving DecidableEq, Repr

/-- Which entries to return; the newest come first. -/
structure EntryFilter where
  event : Option String := none
  rule : Option Id := none
  errorsOnly : Bool := false
  limit : Nat := 50
  deriving DecidableEq, Repr

/-- The totals of one event name. -/
structure EventTotals where
  event : String
  entries : Nat := 0
  errors : Nat := 0
  affected : Int := 0
  deriving DecidableEq, Repr

/-- The totals of a journal, the most frequent event first. -/
structure JournalTotals where
  events : List EventTotals
  deriving DecidableEq, Repr

/-- Why a journal cannot be read. -/
inductive JournalFault
  | limitTooLarge
  | sumTooLarge
  deriving DecidableEq, Repr

namespace EntryPoint

/-- The written form. -/
def name : EntryPoint → String
  | console => "cli"
  | library => "library"

/-- The entry point with a written form. -/
def ofName? (s : String) : Option EntryPoint := [console, library].find? (·.name == s)

end EntryPoint

namespace Entry

/-- Whether an entry is about an error. -/
def isError (e : Entry) : Bool := e.event.error.isSome

/-- Whether an entry comes before another or level with it: newest first, and of
the same time the later number first. -/
def precedes (a b : Entry) : Bool :=
  b.timestamp < a.timestamp || (a.timestamp == b.timestamp && b.id ≤ a.id)

/-- The written form. -/
def toJson (e : Entry) : Json :=
  .object [("id", .ofInt e.id), ("timestamp", .ofInt e.timestamp),
    ("entry_point", .str e.entryPoint), ("app_version", .str e.version),
    ("platform", .str e.platform), ("event", .str e.event.name),
    ("command", .ofText? e.event.command), ("rule_id", .ofText? e.event.rule),
    ("affected_count", .ofInt? e.event.count), ("error_message", .ofText? e.event.error)]

/-- The fields in their order. -/
def fields : Json.Decode Entry := do
  let id ← Json.required "id" Json.asSigned?
  let timestamp ← Json.required "timestamp" Json.asSigned?
  let entryPoint ← Json.required "entry_point" Json.asText?
  let version ← Json.required "app_version" Json.asText?
  let platform ← Json.required "platform" Json.asText?
  let name ← Json.required "event" Json.asText?
  let command ← Json.optional "command" Json.asText?
  let rule ← Json.optional "rule_id" Json.asText?
  let count ← Json.optional "affected_count" Json.asSigned?
  let error ← Json.optional "error_message" Json.asText?
  return ⟨id, timestamp, entryPoint, version, platform, ⟨name, command, rule, count, error⟩⟩

/-- Reads the written form. -/
def ofJson? : Json → Option Entry := Json.decode? fields

end Entry

namespace EntryFilter

/-- Whether an entry fits a filter, its limit aside. -/
def accepts (f : EntryFilter) (e : Entry) : Bool :=
  f.event.all (e.event.name == ·) && f.rule.all (fun id => e.event.rule == some id.text) &&
    (!f.errorsOnly || e.isError)

end EntryFilter

namespace EventTotals

/-- Counts one more entry. -/
def push (t : EventTotals) (e : Entry) : EventTotals :=
  { t with
    entries := t.entries + 1
    errors := if e.isError then t.errors + 1 else t.errors
    affected := t.affected + e.event.count.getD 0 }

/-- Counts an entry under its event name. -/
def insert (e : Entry) : List EventTotals → List EventTotals
  | [] => [push { event := e.event.name } e]
  | t :: rest => if t.event = e.event.name then t.push e :: rest else t :: insert e rest

/-- Whether totals come before others or level with them: the greater number of
entries first, then by name. -/
def precedes (a b : EventTotals) : Bool :=
  b.entries < a.entries || (a.entries == b.entries && !(b.event < a.event))

/-- The written form. -/
def toJson (t : EventTotals) : Json :=
  .object [("event", .str t.event), ("entries", .ofNat t.entries), ("errors", .ofNat t.errors),
    ("affected", .ofInt t.affected)]

/-- The fields in their order. -/
def fields : Json.Decode EventTotals := do
  let event ← Json.required "event" Json.asText?
  let entries ← Json.required "entries" Json.asNat?
  let errors ← Json.required "errors" Json.asNat?
  let affected ← Json.required "affected" Json.asInt?
  return ⟨event, entries, errors, affected⟩

/-- Reads the written form. -/
def ofJson? : Json → Option EventTotals := Json.decode? fields

end EventTotals

namespace JournalTotals

/-- The number of all entries. -/
def entries (s : JournalTotals) : Nat := s.events.foldl (fun n t => n + t.entries) 0

/-- The number of all entries about errors. -/
def errors (s : JournalTotals) : Nat := s.events.foldl (fun n t => n + t.errors) 0

/-- The totals of one event name, zero if it never occurred. -/
def ofEvent (s : JournalTotals) (name : String) : EventTotals :=
  (s.events.find? (·.event == name)).getD { event := name }

end JournalTotals

namespace Journal

/-- Puts an event on record (`LoggingService.log`).  The number is used up even
if the entry is deleted later. -/
def record (j : Journal) (author : Author) (now : Instant) (event : Event) : Journal :=
  { entries := j.entries ++
      [⟨j.nextId, now.millis, author.entryPoint.name, author.version, author.platform, event⟩]
    nextId := j.nextId + 1 }

/-- The newest entries that fit a filter; a limit past 63 bits is an error. -/
def query (j : Journal) (filter : EntryFilter) : Except JournalFault (List Entry) :=
  if Number.fitsSigned filter.limit then
    .ok (((j.entries.filter filter.accepts).mergeSort Entry.precedes).take filter.limit)
  else .error .limitTooLarge

/-- The totals by event; a sum past 64 bits is an error. -/
def stats (j : Journal) : Except JournalFault JournalTotals :=
  let totals := j.entries.foldl (fun totals e => EventTotals.insert e totals) []
  if totals.all (Number.fitsSigned ·.affected) then .ok ⟨totals.mergeSort EventTotals.precedes⟩
  else .error .sumTooLarge

/-- Deletes the entries made before a time (`LoggingService.prune`); returns how
many there were. -/
def prune (j : Journal) (cutoff : Instant) : Nat × Journal :=
  let old (e : Entry) : Bool := e.timestamp < cutoff.millis
  (j.entries.countP old, { j with entries := j.entries.filter (!old ·) })

end Journal
end LedgerRules
