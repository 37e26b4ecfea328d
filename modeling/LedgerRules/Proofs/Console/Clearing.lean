/-
# `logs clear --older-than-days`

The command counts back from the clock to a cutoff and deletes what was made
before it.  Any number of 32 bits is read as the number of days
(`Command.ofArguments_clear`), but the calendar begins some 96 million days
before 1970, and a cutoff before its first date cannot be computed.  So up to
there the command deletes the entries that are older than the days, and those
alone; past it nothing is as old, and the command breaks off in the place of
deleting nothing (`Console.run_clear`).
-/

import LedgerRules.Proofs.Console.Opening
import LedgerRules.Proofs.Journal.Survivors
import LedgerRules.Proofs.Text.Digits
import LedgerRules.Proofs.Time.Calendar

namespace LedgerRules

/-! ### Numbers in arguments -/

namespace Whole

/-- A decimal digit counts as much as it is past `0`. -/
theorem digit?_of_isDigit {c : Char} (h : c.isDigit = true) : digit? c = some (c.toNat - 48) := by
  have hrange : '0' ≤ c ∧ c ≤ '9' := by
    rwa [Char.isDigit, Bool.and_eq_true, decide_eq_true_iff, decide_eq_true_iff] at h
  unfold digit?
  rw [if_pos hrange]
  rfl

/-- Decimal digits are read as the number that they write. -/
theorem ofDigits?_toDigits (n : Nat) : ofDigits? (Nat.toDigits 10 n) = some n := by
  have hfold : ∀ (cs : List Char) (start : Nat), (∀ c ∈ cs, c.isDigit = true) →
      cs.foldl (fun n c => do return (← n) * 10 + (← digit? c)) (some start) =
        some (cs.foldl (fun n c => n * 10 + (c.toNat - 48)) start) := by
    intro cs
    induction cs with
    | nil => exact fun _ _ => rfl
    | cons c cs ih =>
      intro start hdigits
      obtain ⟨hc, hcs⟩ := List.forall_mem_cons.1 hdigits
      rw [List.foldl_cons, List.foldl_cons, digit?_of_isDigit hc]
      exact ih _ hcs
  have hne : (Nat.toDigits 10 n).isEmpty = false :=
    List.isEmpty_eq_false_iff.2 Nat.toDigits_ne_nil
  unfold ofDigits?
  rw [hne, if_neg Bool.false_ne_true, hfold _ _ fun _ => Text.isDigit_toDigits, Text.foldl_toDigits]

/-- The text of a number begins with a digit. -/
theorem toList_toString (n : Nat) : ∃ c cs, (toString n).toList = c :: cs ∧ c.isDigit = true ∧
    c :: cs = Nat.toDigits 10 n := by
  have htext : (toString n).toList = Nat.toDigits 10 n := by
    rw [Nat.toString_eq_ofList_toDigits, String.toList_ofList]
  obtain ⟨c, cs, hcs⟩ := List.exists_cons_of_ne_nil (Nat.toDigits_ne_nil (b := 10) (n := n))
  exact ⟨c, cs, htext.trans hcs, Text.isDigit_toDigits (hcs ▸ List.mem_cons_self), hcs.symm⟩

/-- A number without a sign is read from its text. -/
theorem parse?_toString (n : Nat) : parse? (toString n) = some (n : Int) := by
  obtain ⟨c, cs, htext, hdigit, hdigits⟩ := toList_toString n
  unfold parse?
  rw [htext]
  split
  · rename_i h
    cases h
    cases hdigit
  · rename_i h
    cases h
    cases hdigit
  · rw [hdigits, ofDigits?_toDigits]
    rfl

/-- **A number is read from its text** if it lies in the range.  Numbers on the
command line are read with a range of their type. -/
theorem parseIn?_toString {n : Nat} {most : Int} (h : n ≤ most) :
    parseIn? 0 most (toString n) = some (n : Int) := by
  unfold parseIn?
  rw [parse?_toString]
  refine Option.filter_eq_some_iff.2 ⟨rfl, ?_⟩
  rw [Bool.and_eq_true, decide_eq_true_iff, decide_eq_true_iff]
  omega

end Whole

/-! ### The command line -/

/-- The text of a number does not look like an option. -/
theorem Arguments.looksLikeOption_toString (n : Nat) : looksLikeOption (toString n) = false := by
  obtain ⟨c, cs, htext, hdigit, -⟩ := Whole.toList_toString n
  unfold looksLikeOption
  rw [htext, List.head?_cons, Bool.and_eq_false_iff]
  refine .inl (beq_eq_false_iff_ne.2 fun h => ?_)
  rw [Option.some.inj h] at hdigit
  cases hdigit

/-- **Any number of days of 32 bits is accepted.** Nothing on the command line
asks whether the calendar reaches back that far. -/
theorem Command.ofArguments_clear {days : Nat} (h : days < 2 ^ 32) :
    ofArguments ["logs", "clear", "--older-than-days", toString days, "--force"] =
      .ok ⟨.logsClear days true, false⟩ := by
  have hplain : ¬((Taking.one ≠ .any) ∧ Arguments.looksLikeOption (toString days) = true) := by
    rw [Arguments.looksLikeOption_toString]
    exact fun h => Bool.false_ne_true h.2
  have hread : Arguments.read
      ⟨.absent, [{ name := "older-than-days" }, flag "force" (some 'f'), jsonFlag]⟩
      ["--older-than-days", toString days, "--force"] =
      .ok ⟨none, [("older-than-days", [toString days]), ("force", [])]⟩ := by
    unfold Arguments.read Arguments.readAll
    show (Arguments.readAll _ (some _) _ _).bind _ = _
    unfold Arguments.readAll
    rw [if_neg hplain]
    rfl
  have hdays : Whole.parseIn? 0 4294967295 (toString days) = some (days : Int) :=
    Whole.parseIn?_toString (by omega)
  have hform : form? "logs" "clear" = some ⟨.absent,
      [{ name := "older-than-days" }, flag "force" (some 'f'), jsonFlag]⟩ := rfl
  show ofGroup "logs" ["clear", "--older-than-days", toString days, "--force"] = _
  unfold ofGroup
  dsimp only
  rw [hform]
  dsimp only
  rw [hread]
  dsimp only
  have htask : task? "logs" "clear" ⟨none, [("older-than-days", [toString days]), ("force", [])]⟩ =
      some (.logsClear days true) := by
    show (((Whole.parseIn? 0 4294967295 (toString days)).map some).bind fun days =>
      some (Task.logsClear ((days.map Int.toNat).getD 30) true)) = _
    rw [hdays]
    rfl
  rw [htask]
  rfl

/-! ### The cutoff -/

namespace Instant

/-- The time a number of days before another.  Where the calendar does not reach
back that far, no date belongs to it. -/
def daysBefore (now : Instant) (days : Nat) : Instant :=
  { now with seconds := now.seconds - days * 86400 }

/-- Whether the calendar reaches back a number of days before a time.  It begins
with the first of January of its least year. -/
def Reaches (now : Instant) (days : Nat) : Prop :=
  Date.dayNumber ⟨Date.minYear, 1, 1⟩ ≤ now.date.day - days

instance (now : Instant) (days : Nat) : Decidable (now.Reaches days) :=
  inferInstanceAs (Decidable (_ ≤ _))

/-- The date moves back by the days. -/
theorem day_daysBefore (now : Instant) (days : Nat) :
    (now.daysBefore days).date.day = now.date.day - days := by
  show (now.seconds - days * 86400) / 86400 = now.seconds / 86400 - days
  omega

/-- So do the milliseconds. -/
theorem millis_daysBefore (now : Instant) (days : Nat) :
    (now.daysBefore days).millis = now.millis - days * 86400000 := by
  show (now.seconds - days * 86400) * 1000 + ((now.nanos / 1000000 : Nat) : Int) =
    now.seconds * 1000 + ((now.nanos / 1000000 : Nat) : Int) - days * 86400000
  omega

/-- The calendar reaches back to what has a year in it. -/
theorem reaches_iff (now : Instant) (days : Nat) :
    now.Reaches days ↔ ¬(now.daysBefore days).date.civil.year < Date.minYear := by
  rw [Date.year_lt_iff, day_daysBefore, Int.not_lt]
  rfl

/-- From no time in the calendar does it reach back as far as it is long. -/
theorem Reaches.lt {now : Instant} {days : Nat} (h : now.Reaches days)
    (hnow : now.date.civil.year ≤ Date.maxYear) : days < 191491529 := by
  have hlast := (Date.year_lt_iff now.date (Date.maxYear + 1)).1 (Int.lt_add_one_of_le hnow)
  have hend : Date.dayNumber ⟨Date.maxYear + 1, 1, 1⟩ = 95026237 := by decide
  have hstart : Date.dayNumber ⟨Date.minYear, 1, 1⟩ = -96465292 := by decide
  unfold Reaches at h
  omega

/-- What was made in the calendar is not as old as what the calendar does not
reach. -/
theorem millis_lt_of_not_reaches {now : Instant} {days : Nat} (h : ¬now.Reaches days)
    (hnanos : now.nanos < 1000000000) :
    now.millis < Date.dayNumber ⟨Date.minYear, 1, 1⟩ * 86400000 + days * 86400000 := by
  have hday : now.seconds / 86400 - days < Date.dayNumber ⟨Date.minYear, 1, 1⟩ := Int.not_le.1 h
  show now.seconds * 1000 + ((now.nanos / 1000000 : Nat) : Int) < _
  omega

end Instant

/-! ### The command -/

/-- Whether an entry was made more than a number of days before a time.  One
that is exactly as old is kept. -/
def Entry.olderThan (days : Nat) (now : Instant) (e : Entry) : Bool :=
  e.timestamp + days * 86400000 < now.millis

/-- **A cutoff some days before a time** takes the entries that are older than
the days, and counts them. -/
theorem Journal.prune_daysBefore (j : Journal) (now : Instant) (days : Nat) :
    j.prune (now.daysBefore days) = (j.entries.countP (Entry.olderThan days now),
      { j with entries := j.entries.filter (!Entry.olderThan days now ·) }) := by
  have hold : (fun e : Entry => decide (e.timestamp < (now.daysBefore days).millis)) =
      Entry.olderThan days now := by
    funext e
    unfold Entry.olderThan
    rw [Instant.millis_daysBefore, decide_eq_decide]
    omega
  unfold prune
  rw [hold]

namespace Console

variable {desk : Desk} {stored : Stored Journal}

/-- The desk after its clock was read, with a journal put in place.  Clearing
leaves the databases and the settings alone. -/
def cleared (desk : Desk) (stored : Stored Journal) : Desk :=
  { desk.tick.2 with site := desk.site.withJournal stored }

/-- The command comes to the cutoff.  If it is in the calendar, the command goes
on to delete, and if not, it breaks off. -/
theorem run_clear (hopen : desk.site.openJournal? = some stored) (days : Nat) (s : Surroundings) :
    run ⟨.logsClear days true, false⟩ s desk =
      if desk.tick.1.Reaches days then
        (.say [s!"Deleted {(stored.content.prune (desk.tick.1.daysBefore days)).1} log entries"],
          cleared desk
            { stored with content := (stored.content.prune (desk.tick.1.daysBefore days)).2 })
      else (.breakOff "the cutoff lies before the first date there is", cleared desk stored) := by
  have hopened : openJournal desk =
      (.ok stored, { desk with site := desk.site.withJournal stored }) := by
    unfold openJournal
    rw [hopen]
  have hclock : (modifyGet Desk.tick : Step Instant)
      { desk with site := desk.site.withJournal stored } =
      (.ok desk.tick.1, cleared desk stored) := rfl
  have htask : task ⟨.logsClear days true, false⟩ s desk = logsClearTask days true false desk := rfl
  unfold run
  rw [htask, logsClearTask, bind_of_ok hopened, bind_of_ok hclock]
  have hcutoff : desk.tick.1.Reaches days ↔ ¬(Instant.mk (desk.tick.1.seconds - days * 86400)
      desk.tick.1.nanos).date.civil.year < Date.minYear := Instant.reaches_iff _ _
  dsimp only
  by_cases hreach : desk.tick.1.Reaches days
  · rw [if_pos hreach, if_neg (hcutoff.1 hreach)]
    rfl
  · rw [if_neg hreach, if_pos (not_not.1 (mt hcutoff.2 hreach))]
    rfl

end Console

/-- **Old entries are cleared unless the cutoff lies before the calendar.** Take
a desk with a journal that can be opened, and any number of days of 32 bits: the
command line that clears what is older is accepted.

* If the calendar reaches back as many days, the command succeeds.  It deletes
  the entries that were made more than that many days before the clock, and no
  others, and tells how many they were; if none is as old, it deletes nothing.
* If it does not reach back as far, the command breaks off with the exit code
  101 without a result, and all entries stay.  None that was made in the
  calendar is as old, so there was nothing to delete.
* The calendar is 191491529 days long, and from no time in it does it reach back
  as far, while the command takes any number of days up to 4294967295. -/
theorem old_entries_are_cleared_unless_before_calendar {days : Nat} (hdays : days < 2 ^ 32)
    {desk : Desk} {stored : Stored Journal} (hopen : desk.site.openJournal? = some stored)
    (s : Surroundings) :
    ∃ c, Command.ofArguments ["logs", "clear", "--older-than-days", toString days, "--force"] =
        .ok c ∧
      let now := desk.tick.1
      let entries := stored.content.entries
      (now.Reaches days →
        Console.run c s desk =
          (.say [s!"Deleted {entries.countP (Entry.olderThan days now)} log entries"],
            Console.cleared desk { stored with content := { stored.content with
              entries := entries.filter (!Entry.olderThan days now ·) } }) ∧
        ((∀ e ∈ entries, e.olderThan days now = false) →
          Console.run c s desk = (.say ["Deleted 0 log entries"], Console.cleared desk stored))) ∧
      (¬now.Reaches days →
        (Console.run c s desk).1.exit = 101 ∧ (Console.run c s desk).1.out = "" ∧
        (Console.run c s desk).2 = Console.cleared desk stored ∧
        (now.nanos < 1000000000 → ∀ e ∈ entries,
          Date.dayNumber ⟨Date.minYear, 1, 1⟩ * 86400000 ≤ e.timestamp →
          e.olderThan days now = false)) ∧
      (now.date.civil.year ≤ Date.maxYear → 191491529 ≤ days → ¬now.Reaches days) := by
  refine ⟨_, Command.ofArguments_clear hdays, ?_⟩
  dsimp only
  rw [Console.run_clear hopen, Journal.prune_daysBefore]
  refine ⟨fun hreach => ?_, fun hnot => ?_, fun hyear hfar hreach => ?_⟩
  · rw [if_pos hreach]
    refine ⟨rfl, fun hyoung => ?_⟩
    have hnone : stored.content.entries.countP (Entry.olderThan days desk.tick.1) = 0 :=
      List.countP_eq_zero.2 fun e he => Bool.eq_false_iff.1 (hyoung e he)
    have hall : stored.content.entries.filter (!Entry.olderThan days desk.tick.1 ·) =
        stored.content.entries :=
      List.filter_eq_self.2 fun e he => by rw [hyoung e he, Bool.not_false]
    have hline : s!"Deleted {0} log entries" = "Deleted 0 log entries" := by decide
    rw [hnone, hall]
    exact congrArg (fun line => (Output.say [line], Console.cleared desk stored)) hline
  · rw [if_neg hnot]
    refine ⟨rfl, rfl, rfl, fun hnanos e _ hmade => ?_⟩
    have hlt := Instant.millis_lt_of_not_reaches hnot hnanos
    refine decide_eq_false ?_
    omega
  · have hlt := hreach.lt hyear
    omega

namespace Sample

/-- An entry of a command that was carried out at the start of a day. -/
def dated (id : Nat) (day : Int) : Entry :=
  JournalCall.entry id Console.author ⟨day * 86400, 0⟩
    { name := Event.commandExecuted, command := some "rule list" }

/-- A desk on the fiftieth day, with entries of the first and the fortieth day
on record. -/
def diary : Desk :=
  { site.journal := .present ⟨{}, { entries := [dated 1 0, dated 2 40], nextId := 3 }⟩
    supply := { clock := fun _ => ⟨50 * 86400, 0⟩, ids := fun n => ⟨BitVec.ofNat 128 n⟩ } }

end Sample

/-- Thirty days back there is an entry to delete.  The greatest number of days
lies before the calendar, and the command breaks off where it had nothing to
delete. -/
theorem month_is_cleared_and_ages_break_off :
    ∃ stored, Sample.diary.site.openJournal? = some stored ∧
      stored.content.entries = [Sample.dated 1 0, Sample.dated 2 40] ∧
      (∃ c, Command.ofArguments ["logs", "clear", "--older-than-days", toString 30, "--force"] =
          .ok c ∧
        Console.run c { directory := "data" } Sample.diary = (.say ["Deleted 1 log entries"],
          Console.cleared Sample.diary { stored with content := { stored.content with
            entries := [Sample.dated 2 40] } })) ∧
      ∃ c, Command.ofArguments ["logs", "clear", "--older-than-days", toString 4294967295,
          "--force"] = .ok c ∧
        (Console.run c { directory := "data" } Sample.diary).1.exit = 101 ∧
        (Console.run c { directory := "data" } Sample.diary).2 =
          Console.cleared Sample.diary stored ∧
        ∀ e ∈ stored.content.entries, e.olderThan 4294967295 Sample.diary.tick.1 = false := by
  obtain ⟨stored, hopen, hentries⟩ : ∃ stored, Sample.diary.site.openJournal? = some stored ∧
      stored.content.entries = [Sample.dated 1 0, Sample.dated 2 40] := ⟨_, rfl, rfl⟩
  obtain ⟨c, hc, hcleared, -, -⟩ :=
    old_entries_are_cleared_unless_before_calendar (by decide : 30 < 2 ^ 32) hopen
      { directory := "data" }
  obtain ⟨c', hc', -, hbroken, hfar⟩ :=
    old_entries_are_cleared_unless_before_calendar (by decide : 4294967295 < 2 ^ 32) hopen
      { directory := "data" }
  obtain ⟨hexit, -, hleft, hyoung⟩ := hbroken (hfar (by decide) (by decide))
  refine ⟨stored, hopen, hentries, ⟨c, hc, ?_⟩, c', hc', hexit, hleft, fun e he =>
    hyoung (by decide) e he ?_⟩
  · rw [(hcleared (by decide)).1, hentries]
    rfl
  · rw [hentries] at he
    revert e
    decide

end LedgerRules
