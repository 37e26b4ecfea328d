/-
# Working on a site

A desk is a site with the supply that work on it draws from.  Events go to the
journal of the site, under the name of an author; where the journal cannot be
opened they are lost, and the work goes on.

Embeds `TidylineContext.new`, `get_context`, `get_logger` and `log_event`: the
services that a command gets, and an event that is written or lost without
breaking the command.
-/

import LedgerRules.Program.Basic
import LedgerRules.Site.Basic

namespace LedgerRules

/-- A site to work on, with a supply.  Every command has it as it was left by
the one before. -/
structure Desk where
  site : Site
  supply : Supply

/-- What became of an action: its result, and what was noticed on the way. -/
structure Performed (α : Type) where
  result : Except Error α
  notices : List Error

namespace Desk

/-- Reads the clock. -/
def tick (desk : Desk) : Instant × Desk :=
  let (now, supply) := desk.supply.tick
  (now, { desk with supply })

/-- Opens the journal if it can be opened, and puts an event on record in it. -/
def record (author : Author) (event : Option Event) (desk : Desk) : Desk :=
  match desk.site.openJournal?, event with
  | none, _ => desk
  | some stored, none => { desk with site := desk.site.withJournal stored }
  | some stored, some e =>
    let (now, desk) := desk.tick
    { desk with
      site := desk.site.withJournal { stored with content := stored.content.record author now e } }

/-- Carries out an action on a store beside the site. -/
def performOn {σ α : Type} [Store σ] (author : Option Author) (a : Action α) (store : σ)
    (desk : Desk) : Performed α × σ × Desk :=
  let opened := author.bind fun author => desk.site.openJournal?.map (author, ·)
  let world : World σ :=
    { store, journal := opened.map fun (author, stored) => (author, stored.content)
      supply := desk.supply }
  let (result, world) := a.run world
  let site := match opened, world.journal with
    | some (_, stored), some (_, journal) =>
      desk.site.withJournal { stored with content := journal }
    | _, _ => desk.site
  (⟨result, world.notices⟩, world.store, ⟨site, world.supply⟩)

/-- Carries out an action on the database of the site, if that can be opened. -/
def perform? {α : Type} (env : Environment) (author : Option Author) (a : Action α)
    (desk : Desk) : Option (Performed α × Desk) := do
  let (settings, stored) ← desk.site.openDatabase? env
  let (performed, content, desk) := desk.performOn author a stored.content
  return (performed, { desk with
    site := desk.site.withDatabase settings { stored with content } })

end Desk
end LedgerRules
