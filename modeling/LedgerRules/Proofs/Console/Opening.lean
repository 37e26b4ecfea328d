/-
# Working on the database of a site

A command opens the database that its settings choose, more than once if it has
more to do than one action, and each time it finds the rows that the last action
left.  Opening a file may create it or migrate it, but the rows are those of the
file.  So a command is told by the settings in force and the rows that are
opened (`Site.Opens`), by the world in which its actions are carried out
(`Console.world`), and by the rows that they leave in place of these
(`Site.Becomes`).

A command that ends with the exit code 0 has got through: its arguments could be
read (`Console.Step.Reads.of_exit`), the database could be opened
(`Console.openSettings_of_exit`), and the last action succeeded
(`Console.performAndShow_of_opens`).
-/

import LedgerRules.Console.Run
import LedgerRules.Proofs.Program.Running

namespace LedgerRules

/-! ### Sites -/

/-- The rows in the file of a database, if it can be opened.  A missing file is
made, and has no rows; one with other content is refused. -/
def DataFile.rows? : DataFile Database → Option Database
  | .absent => some {}
  | .alien _ => none
  | .present stored => some stored.content

/-- Opening a file finds its rows. -/
theorem DataFile.map_content_open? (f : DataFile Database) (set : List Migration) :
    (f.open? set {}).map (·.content) = f.rows? := by
  cases f <;> rfl

namespace Site

/-- The file of the database, or of that for the demo mode.  A command works on
one of the two. -/
def file (s : Site) (demo : Bool) : DataFile Database := if demo then s.demo else s.ledger

/-- The settings are in force, and the database that they choose is opened with
the rows. -/
structure Opens (s : Site) (env : Environment) (settings : Settings) (d : Database) : Prop where
  inForce : (Settings.load? s.settings).map (·.override env) = some settings
  rows : (s.file settings.demo).rows? = some d

/-- After work on one of its databases a site has these rows in it; the other
database and the settings are as they were. -/
structure Becomes (s : Site) (demo : Bool) (d : Database) (s' : Site) : Prop where
  settings : s'.settings = s.settings
  rows : (s'.file demo).rows? = some d
  other : s'.file (!demo) = s.file !demo

variable {s s' s'' : Site} {env : Environment} {settings : Settings} {d d' : Database}
  {stored : Stored Database} {demo : Bool}

/-- What a command opens are the settings in force and the rows of the file. -/
theorem opens_of_openDatabase? (h : s.openDatabase? env = some (settings, stored)) :
    s.Opens env settings stored.content := by
  unfold openDatabase? at h
  obtain ⟨loaded, hloaded, h⟩ := Option.bind_eq_some_iff.1 h
  obtain ⟨stored', hfile, h⟩ := Option.bind_eq_some_iff.1 h
  cases h
  refine ⟨by rw [hloaded, Option.map_some], ?_⟩
  rw [← DataFile.map_content_open?, file, hfile, Option.map_some]

/-- And that is what it opens, with some schema. -/
theorem Opens.openDatabase? (h : s.Opens env settings d) :
    ∃ schema, s.openDatabase? env = some (settings, ⟨schema, d⟩) := by
  obtain ⟨loaded, hloaded, rfl⟩ := Option.map_eq_some_iff.1 h.inForce
  have hrows := h.rows
  rw [← DataFile.map_content_open? _ Migration.ledgerSet] at hrows
  obtain ⟨⟨schema, content⟩, hfile, rfl⟩ := Option.map_eq_some_iff.1 hrows
  refine ⟨schema, ?_⟩
  unfold Site.openDatabase?
  simp only [hloaded, Option.bind_eq_bind, Option.bind_some]
  rw [show (if (loaded.override env).demo then s.demo else s.ledger) = s.file _ from rfl, hfile]
  rfl

/-- A database that is put back has its rows in the place of those that settings
choose. -/
theorem becomes_withDatabase (hsettings : s'.settings = s.settings) (hdemo : s'.demo = s.demo)
    (hledger : s'.ledger = s.ledger) (settings : Settings) (stored : Stored Database) :
    s.Becomes settings.demo stored.content (s'.withDatabase settings stored) := by
  unfold withDatabase
  cases hchosen : settings.demo with
  | false => exact ⟨hsettings, rfl, hdemo⟩
  | true => exact ⟨hsettings, rfl, hledger⟩

/-- Two pieces of work on one database leave what the second one leaves. -/
theorem Becomes.trans (h : s.Becomes demo d s') (h' : s'.Becomes demo d' s'') :
    s.Becomes demo d' s'' :=
  ⟨h'.settings.trans h.settings, h'.rows, h'.other.trans h.other⟩

/-- What was put in the database is what is opened next. -/
theorem Becomes.opens (h : s.Becomes settings.demo d' s') (hopen : s.Opens env settings d) :
    s'.Opens env settings d' :=
  ⟨by rw [h.settings, hopen.inForce], h.rows⟩

end Site

/-! ### Desks -/

/-- Whether or not an event is put on record, the settings and the databases
stay. -/
theorem Desk.site_record (desk : Desk) (author : Author) (event : Option Event) :
    (desk.record author event).site = { desk.site with
      journal := (desk.record author event).site.journal } := by
  unfold Desk.record
  split <;> rfl

namespace Console

/-- The desk when a command has been put on record.  This comes before anything
else that the command does. -/
def begun (c : Command) (desk : Desk) : Desk :=
  desk.record author (c.recordedName?.map fun name =>
    { name := Event.commandExecuted, command := some name })

/-- The world in which a command carries out an action on rows.  Without a
journal that can be opened nothing is put on record. -/
def world (desk : Desk) (d : Database) : World Database :=
  { store := d
    journal := desk.site.openJournal?.map fun stored => (author, stored.content)
    supply := desk.supply }

/-! ### Steps -/

section Steps

variable {α β : Type} {x : Step α} {desk desk' : Desk}

/-- A command goes on with what a step has given. -/
theorem bind_of_ok {a : α} (h : x desk = (.ok a, desk')) (f : α → Step β) :
    (x >>= f) desk = f a desk' := by
  show ExceptT.bindCont f (x desk).1 (x desk).2 = _
  rw [h]
  rfl

/-- It ends with a step that fails. -/
theorem bind_of_error {failure : Failure} (h : x desk = (.error failure, desk')) (f : α → Step β) :
    (x >>= f) desk = (.error failure, desk') := by
  show ExceptT.bindCont f (x desk).1 (x desk).2 = _
  rw [h]
  rfl

end Steps

/-- The exit code where a command ends with an output or early.  It is 1 with a
message; an output has its own. -/
def exitOf : Except Failure Output → Nat
  | .ok o => o.exit
  | .error (.message _) => 1
  | .error (.output o) => o.exit

/-- A step reads arguments: if there is a value it has that and leaves the desk
alone, and else it ends the command with an exit code that is not 0. -/
structure Step.Reads {α : Type} (x : Step α) (value : Option α) : Prop where
  ok : ∀ a, value = some a → ∀ desk, x desk = (.ok a, desk)
  ends : value = none → ∀ desk, ∃ failure, x desk = (.error failure, desk) ∧
    exitOf (.error failure) = 1

namespace Step.Reads

variable {α : Type} {x : Step α} {value : Option α}

/-- An identifier is read with blanks around it. -/
theorem readId (text : String) : Step.Reads (readId text) (Id.parse? (Text.trim text)) := by
  unfold Console.readId
  constructor
  · intro id hid desk
    rw [hid]
    rfl
  · intro hnone desk
    rw [hnone]
    exact ⟨_, rfl, rfl⟩

/-- A body is read as JSON. -/
theorem readBody (json : Bool) (raw : String) :
    Step.Reads (readBody json raw) (Json.read? raw) := by
  unfold Console.readBody
  constructor
  · intro body hbody desk
    rw [hbody]
    rfl
  · intro hnone desk
    rw [hnone]
    refine ⟨_, rfl, ?_⟩
    cases json <;> rfl

/-- An argument that may be absent is read if it is there. -/
theorem readIf {read : String → Step α} {value? : String → Option α}
    (h : ∀ text, Step.Reads (read text) (value? text)) (argument : Option String) :
    Step.Reads (readIf read argument)
      (argument.elim (some none) fun text => (value? text).map some) := by
  cases argument with
  | none =>
    refine ⟨fun a ha desk => ?_, nofun⟩
    rw [← Option.some.inj ha]
    rfl
  | some text =>
    show Step.Reads (some <$> read text) ((value? text).map some)
    rw [map_eq_pure_bind]
    constructor
    · intro a ha desk
      obtain ⟨b, hb, rfl⟩ := Option.map_eq_some_iff.1 ha
      exact bind_of_ok ((h text).ok b hb desk) _
    · intro hnone desk
      obtain ⟨failure, hfail, hexit⟩ := (h text).ends (Option.map_eq_none_iff.1 hnone) desk
      exact ⟨failure, bind_of_error hfail _, hexit⟩

/-- A command that reads arguments and ends with the exit code 0 goes on with
what it has read. -/
theorem of_exit (hx : Step.Reads x value) {f : α → Step Output} {desk : Desk}
    (h : exitOf ((x >>= f) desk).1 = 0) : ∃ a, value = some a ∧ (x >>= f) desk = f a desk := by
  cases hvalue : value with
  | none =>
    obtain ⟨failure, hfail, hexit⟩ := hx.ends hvalue desk
    rw [bind_of_error hfail] at h
    exact absurd (hexit.symm.trans h) Nat.one_ne_zero
  | some a => exact ⟨a, rfl, bind_of_ok (hx.ok a hvalue desk) f⟩

end Step.Reads

/-- The exit code of a command is that of its steps. -/
theorem exit_run (c : Command) (s : Surroundings) (desk : Desk) :
    (run c s desk).1.exit = exitOf (task c s desk).1 := by
  unfold run
  split <;> rename_i hrun <;> rw [hrun] <;> rfl

variable {env : Environment} {settings : Settings} {d : Database} {desk : Desk}

/-- To put a command on record does not change what it opens. -/
theorem opens_begun_iff {c : Command} :
    (begun c desk).site.Opens env settings d ↔ desk.site.Opens env settings d := by
  unfold begun
  rw [Desk.site_record]
  exact ⟨fun h => ⟨h.inForce, h.rows⟩, fun h => ⟨h.inForce, h.rows⟩⟩

/-- Nor does it count as work on a database. -/
theorem becomes_begun {s : Site} {demo : Bool} {d : Database} {c : Command}
    (h : (begun c desk).site.Becomes demo d s) : desk.site.Becomes demo d s := by
  unfold begun at h
  rw [Desk.site_record] at h
  exact ⟨h.settings, h.rows, h.other⟩

/-- Where the database can be opened, it is, and the rest of the command is
carried out in the same world. -/
theorem openSettings_of_opens (h : desk.site.Opens env settings d) : ∃ desk',
    openSettings env desk = (.ok settings, desk') ∧ desk.site.Becomes settings.demo d desk'.site ∧
      world desk' = world desk := by
  obtain ⟨schema, hopen⟩ := h.openDatabase?
  refine ⟨{ desk with site := desk.site.withDatabase settings ⟨schema, d⟩ }, ?_,
    Site.becomes_withDatabase rfl rfl rfl settings ⟨schema, d⟩, ?_⟩
  · unfold openSettings
    rw [hopen]
  · have hjournal : (desk.site.withDatabase settings ⟨schema, d⟩).journal = desk.site.journal := by
      unfold Site.withDatabase
      split <;> rfl
    unfold world Site.openJournal?
    rw [hjournal]

/-- A command that opens the database and ends with the exit code 0 goes on with
the settings. -/
theorem openSettings_of_exit {f : Settings → Step Output}
    (h : exitOf ((openSettings env >>= f) desk).1 = 0) : ∃ settings d desk',
      desk.site.Opens env settings d ∧ desk.site.Becomes settings.demo d desk'.site ∧
      world desk' = world desk ∧ (openSettings env >>= f) desk = f settings desk' := by
  cases hopen : desk.site.openDatabase? env with
  | none =>
    have hfail : openSettings env desk = (.error cannotOpen, desk) := by
      unfold openSettings
      rw [hopen]
    rw [bind_of_error hfail] at h
    exact absurd h Nat.one_ne_zero
  | some opened =>
    obtain ⟨settings, stored⟩ := opened
    have hopens := Site.opens_of_openDatabase? hopen
    obtain ⟨desk', hok, hbecomes, hworld⟩ := openSettings_of_opens hopens
    exact ⟨settings, stored.content, desk', hopens, hbecomes, hworld, bind_of_ok hok f⟩

/-- **An action is carried out on the rows that are opened**, and what it leaves
is put back, whether it succeeds or fails. -/
theorem perform_of_opens {α : Type} (h : desk.site.Opens env settings d) (a : Action α) :
    ∃ desk', perform env a desk =
        (.ok ⟨(a.run (world desk d)).1, (a.run (world desk d)).2.notices⟩, desk') ∧
      desk.site.Becomes settings.demo (a.run (world desk d)).2.store desk'.site := by
  obtain ⟨schema, hopen⟩ := h.openDatabase?
  have hworld : ({ store := d
                   journal := (desk.site.openJournal?.map (author, ·)).map fun opened =>
                     (opened.1, opened.2.content)
                   supply := desk.supply } : World Database) = world desk d := by
    rw [Option.map_map]
    rfl
  have hdone : (desk.performOn (some author) a d).1 =
        ⟨(a.run (world desk d)).1, (a.run (world desk d)).2.notices⟩ ∧
      (desk.performOn (some author) a d).2.1 = (a.run (world desk d)).2.store := by
    rw [← hworld]
    exact ⟨rfl, rfl⟩
  have hsite : (desk.performOn (some author) a d).2.2.site.settings = desk.site.settings ∧
      (desk.performOn (some author) a d).2.2.site.demo = desk.site.demo ∧
      (desk.performOn (some author) a d).2.2.site.ledger = desk.site.ledger := by
    unfold Desk.performOn
    dsimp only
    split <;> exact ⟨rfl, rfl, rfl⟩
  obtain ⟨hsettings, hdemo, hledger⟩ := hsite
  refine ⟨{ (desk.performOn (some author) a d).2.2 with
    site := (desk.performOn (some author) a d).2.2.site.withDatabase settings
      ⟨schema, (desk.performOn (some author) a d).2.1⟩ }, ?_, ?_⟩
  · unfold perform Desk.perform?
    rw [hopen, ← hdone.1]
    rfl
  · rw [← hdone.2]
    exact Site.becomes_withDatabase hsettings hdemo hledger settings ⟨schema, _⟩

/-- **An action that is carried out and shown ends the command.** Where it
succeeds the exit code is that of what is shown; where it fails or breaks off it
is not 0. -/
theorem performAndShow_of_opens {α : Type} (h : desk.site.Opens env settings d) (json : Bool)
    (a : Action α) (show_ : α → Output) : ∃ o desk',
      performAndShow env json a show_ desk = (.ok o, desk') ∧
      desk.site.Becomes settings.demo (a.run (world desk d)).2.store desk'.site ∧
      match (a.run (world desk d)).1 with
      | .ok x => o.exit = (show_ x).exit
      | .error _ => o.exit ≠ 0 := by
  obtain ⟨desk', hperform, hbecomes⟩ := perform_of_opens h a
  unfold performAndShow
  rw [bind_of_ok hperform]
  cases (a.run (world desk d)).1 with
  | ok x => exact ⟨_, desk', rfl, hbecomes, rfl⟩
  | error e =>
    cases e with
    | conditions faults => cases json <;> exact ⟨_, desk', rfl, hbecomes, Nat.one_ne_zero⟩
    | overflow => exact ⟨_, desk', rfl, hbecomes, Nat.succ_ne_zero 100⟩
    | _ => exact ⟨_, desk', rfl, hbecomes, Nat.one_ne_zero⟩

end Console
end LedgerRules
