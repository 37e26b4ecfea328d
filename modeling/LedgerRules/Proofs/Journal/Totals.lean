/-
# Totals of what is on record

`Journal.stats` goes through the entries once, counts each in the line of its
event name (`EventTotals.insert`), and sorts the lines.  Whatever was put on
record and deleted before, the lines are the totals of the entries that are
left: one for each event name among them, the most frequent first
(`Journal.totals_match_what_is_left`).

The sum of the counts in a line has a word with sign.  Where the counts of one
name add up to more there are no totals at all, not of the other names either.
-/

import LedgerRules.Proofs.Journal.Survivors
import Mathlib.Algebra.BigOperators.Group.List.Basic
import Mathlib.Algebra.GroupWithZero.Nat
import Mathlib.Algebra.Ring.Int.Defs
import Mathlib.Data.List.Induction
import Mathlib.Data.List.Nodup
import Mathlib.Data.String.Basic

namespace LedgerRules

/-! ### Lines -/

namespace EventTotals

/-- The totals of an event name over entries: how many there are, how many of
them report an error, and the sum of their counts, a missing count taken for 0. -/
def summed (name : String) (es : List Entry) : EventTotals :=
  { event := name
    entries := es.countP (·.event.name == name)
    errors := es.countP fun e => e.event.name == name && e.isError
    affected := ((es.filter (·.event.name == name)).map (·.event.count.getD 0)).sum }

/-- An entry counts in the line of its event name, and in no other. -/
theorem summed_concat (name : String) (es : List Entry) (e : Entry) : summed name (es ++ [e]) =
    if e.event.name = name then (summed name es).push e else summed name es := by
  unfold summed push
  by_cases hname : e.event.name = name
  · cases herror : e.isError <;>
      simp [List.countP_append, List.filter_append, hname, herror]
  · simp [List.countP_append, List.filter_append, hname]

/-- Over entries of other names there is nothing to count, so a name that comes
up for the first time starts from zero. -/
theorem summed_of_forall_ne {name : String} {es : List Entry} (h : ∀ e ∈ es, e.event.name ≠ name) :
    summed name es = { event := name } := by
  have hnone : es.filter (·.event.name == name) = [] :=
    List.filter_eq_nil_iff.2 fun e he => by simpa using h e he
  have hcount : es.countP (·.event.name == name) = 0 := by
    rw [List.countP_eq_length_filter, hnone, List.length_nil]
  have herrors : es.countP (fun e => e.event.name == name && e.isError) = 0 :=
    List.countP_eq_zero.2 fun e he => by simp [h e he]
  unfold summed
  rw [hcount, herrors, hnone]
  rfl

/-- Lines are the totals of entries: there is one for every event name among
them, and no more.  In which order the lines stand is another matter. -/
structure Describe (lines : List EventTotals) (es : List Entry) : Prop where
  line : ∀ t ∈ lines, t = summed t.event es
  named : ∀ name, name ∈ lines.map (·.event) ↔ ∃ e ∈ es, e.event.name = name
  distinct : (lines.map (·.event)).Nodup

variable {lines lines' : List EventTotals} {es : List Entry} {e : Entry}

/-- No entries have no lines. -/
theorem describe_nil : Describe [] [] := ⟨List.forall_mem_nil _, by simp, .nil⟩

/-- Lines may stand in any order. -/
theorem Describe.perm (h : Describe lines es) (hperm : lines'.Perm lines) : Describe lines' es :=
  ⟨fun t ht => h.line t (hperm.subset ht),
    fun name => (hperm.map _).mem_iff.trans (h.named name),
    (hperm.map _).nodup_iff.2 h.distinct⟩

/-- The event name has a line: the entry is counted there, and no line is added. -/
theorem insert_of_mem (hd : (lines.map (·.event)).Nodup)
    (h : e.event.name ∈ lines.map (·.event)) :
    insert e lines = lines.map fun t => if t.event = e.event.name then t.push e else t := by
  induction lines with
  | nil => cases h
  | cons t lines ih =>
    obtain ⟨hnew, hlines⟩ := List.nodup_cons.1 hd
    rw [insert, List.map_cons]
    by_cases ht : t.event = e.event.name
    · have hothers :
          lines.map (fun t => if t.event = e.event.name then t.push e else t) = lines := by
        refine (List.map_congr_left fun t' ht' => if_neg fun he => hnew ?_).trans
          (List.map_id lines)
        exact List.mem_map.2 ⟨t', ht', he.trans ht.symm⟩
      rw [if_pos ht, if_pos ht, hothers]
    · rw [if_neg ht, if_neg ht, ih hlines ((List.mem_cons.1 h).resolve_left (Ne.symm ht))]

/-- The event name has no line yet: there is one more, with this entry alone. -/
theorem insert_of_not_mem (h : e.event.name ∉ lines.map (·.event)) :
    insert e lines = lines ++ [push { event := e.event.name } e] := by
  induction lines with
  | nil => rfl
  | cons t lines ih =>
    rw [List.map_cons, List.mem_cons, not_or] at h
    rw [insert, if_neg (Ne.symm h.1), ih h.2]
    rfl

/-- **One entry more is counted in its line.** The two cases are those of
`insert`; in the first the other lines stay right because the entry has another
name. -/
theorem Describe.insert (h : Describe lines es) (e : Entry) :
    Describe (insert e lines) (es ++ [e]) := by
  have hnames : ∀ name, (∃ e' ∈ es ++ [e], e'.event.name = name) ↔
      name ∈ lines.map (·.event) ∨ e.event.name = name := by
    intro name
    rw [h.named]
    simp [or_and_right, exists_or]
  by_cases hmem : e.event.name ∈ lines.map (·.event)
  · have hsame : (lines.map fun t => if t.event = e.event.name then t.push e else t).map
        (·.event) = lines.map (·.event) := by
      rw [List.map_map]
      refine List.map_congr_left fun t _ => ?_
      show (if t.event = e.event.name then t.push e else t).event = t.event
      split <;> rfl
    rw [insert_of_mem h.distinct hmem]
    refine ⟨fun t' ht' => ?_, fun name => ?_, hsame ▸ h.distinct⟩
    · obtain ⟨t, ht, rfl⟩ := List.mem_map.1 ht'
      have hline := h.line t ht
      by_cases he : t.event = e.event.name
      · rw [if_pos he]
        show t.push e = summed t.event (es ++ [e])
        rw [summed_concat, if_pos he.symm, ← hline]
      · rw [if_neg he, summed_concat, if_neg (Ne.symm he), ← hline]
    · rw [hsame, hnames]
      exact ⟨.inl, fun h => h.elim id fun he => he ▸ hmem⟩
  · have hnone : ∀ e' ∈ es, e'.event.name ≠ e.event.name :=
      fun e' he' hname => hmem ((h.named _).2 ⟨e', he', hname⟩)
    have hnew : (push { event := e.event.name } e).event = e.event.name := rfl
    rw [insert_of_not_mem hmem]
    refine ⟨fun t ht => ?_, fun name => ?_, ?_⟩
    · rcases List.mem_append.1 ht with ht | ht
      · have hne : e.event.name ≠ t.event := fun he => hmem (he ▸ List.mem_map_of_mem ht)
        rw [summed_concat, if_neg hne]
        exact h.line t ht
      · rw [List.mem_singleton.1 ht, hnew, summed_concat, if_pos rfl, summed_of_forall_ne hnone]
    · rw [List.map_append, List.mem_append, hnames]
      simp [hnew, eq_comm]
    · rw [List.map_append]
      exact h.distinct.append (List.nodup_singleton _) (by simpa [hnew] using hmem)

/-- The lines of entries that are counted one after the other.  This is the
statement that groups by event name, carried out entry by entry. -/
def tally (es : List Entry) : List EventTotals := es.foldl (fun lines e => insert e lines) []

/-- Counting one entry more is inserting it into the lines of the others. -/
theorem tally_concat (es : List Entry) (e : Entry) : tally (es ++ [e]) = insert e (tally es) := by
  unfold tally
  rw [List.foldl_append, List.foldl_cons, List.foldl_nil]

/-- Counted one after the other, entries have the lines that describe them. -/
theorem describe_tally (es : List Entry) : Describe (tally es) es := by
  induction es using List.reverseRecOn with
  | nil => exact describe_nil
  | append_singleton es e ih =>
    rw [tally_concat]
    exact ih.insert e

/-- An amount that grows with an entry in its line alone grows as much in all
lines together.  It is used with the number of entries and with the number of
errors. -/
theorem sum_insert {f : EventTotals → Nat} {n : Nat}
    (hpush : ∀ t : EventTotals, f (t.push e) = f t + n)
    (hnew : f { event := e.event.name } = 0) (lines : List EventTotals) :
    ((insert e lines).map f).sum = (lines.map f).sum + n := by
  induction lines with
  | nil => simp [insert, hpush, hnew]
  | cons t lines ih =>
    rw [insert]
    split
    · simp only [List.map_cons, List.sum_cons, hpush]
      omega
    · simp only [List.map_cons, List.sum_cons, ih]
      omega

/-- **Every entry is counted once**, in the line of its own name, so the lines
add up to all entries and to all errors.  One more entry adds one to one line,
which is what the induction needs. -/
theorem sum_tally (es : List Entry) : ((tally es).map (·.entries)).sum = es.length ∧
    ((tally es).map (·.errors)).sum = es.countP (·.isError) := by
  induction es using List.reverseRecOn with
  | nil => exact ⟨rfl, rfl⟩
  | append_singleton es e ih =>
    have herrors : ∀ t : EventTotals,
        (t.push e).errors = t.errors + if e.isError then 1 else 0 := by
      intro t
      unfold push
      cases e.isError <;> rfl
    rw [tally_concat, sum_insert (fun _ => rfl) rfl, sum_insert herrors rfl, ih.1, ih.2]
    simp [List.countP_append, List.countP_singleton]

/-! ### Their order -/

variable {a b : EventTotals}

/-- A line stands before another or level with it if it counts more entries, or
equally many under a name that is not past the other: `ORDER BY COUNT(*) DESC,
event`. -/
theorem precedes_iff : a.precedes b = true ↔
    b.entries < a.entries ∨ a.entries = b.entries ∧ a.event ≤ b.event := by
  unfold precedes
  rw [Bool.or_eq_true, Bool.and_eq_true, Bool.not_eq_true', decide_eq_true_iff, beq_iff_eq,
    decide_eq_false_iff_not, not_lt]

/-- The order of lines is transitive, so sorting by it gives a sorted list. -/
theorem precedes_trans (a b c : EventTotals) (hab : a.precedes b = true)
    (hbc : b.precedes c = true) : a.precedes c = true := by
  rw [precedes_iff] at *
  rcases hab with hab | ⟨hab, hab'⟩ <;> rcases hbc with hbc | ⟨hbc, hbc'⟩
  · exact .inl (by omega)
  · exact .inl (by omega)
  · exact .inl (by omega)
  · exact .inr ⟨by omega, le_trans hab' hbc'⟩

/-- Of two lines one stands before the other or level with it. -/
theorem precedes_total (a b : EventTotals) : (a.precedes b || b.precedes a) = true := by
  rw [Bool.or_eq_true, precedes_iff, precedes_iff]
  rcases lt_trichotomy a.entries b.entries with hlt | heq | hgt
  · exact .inr (.inl hlt)
  · exact (le_total a.event b.event).imp (fun h => .inr ⟨heq, h⟩) fun h => .inr ⟨heq.symm, h⟩
  · exact .inl (.inl hgt)

end EventTotals

/-! ### Totals -/

namespace JournalTotals

/-- The number of all entries is the sum over the lines; `LoggingService.stats`
adds it up while it reads them. -/
theorem entries_eq_sum (s : JournalTotals) : s.entries = (s.events.map (·.entries)).sum := by
  rw [entries, List.sum_eq_foldl, List.foldl_map]

/-- The number of all errors is the sum over the lines as well. -/
theorem errors_eq_sum (s : JournalTotals) : s.errors = (s.events.map (·.errors)).sum := by
  rw [errors, List.sum_eq_foldl, List.foldl_map]

/-- The totals of a journal are those of entries: they have one line for each
event name, the most frequent first and of equally many entries by name, and all
lines together count every entry. -/
structure SumUp (s : JournalTotals) (es : List Entry) : Prop where
  describe : EventTotals.Describe s.events es
  ordered : s.events.Pairwise fun a b =>
    b.entries < a.entries ∨ a.entries = b.entries ∧ a.event < b.event
  entries : s.entries = (s.events.map (·.entries)).sum ∧ s.entries = es.length
  errors : s.errors = (s.events.map (·.errors)).sum ∧ s.errors = es.countP (·.isError)

end JournalTotals

namespace Journal

open JournalCall

variable (j : Journal)

/-- **The sorted lines are the totals of the entries.** No two lines are level,
since their names differ, so it is never open which of them comes first. -/
theorem sumUp_tally (es : List Entry) :
    JournalTotals.SumUp ⟨(EventTotals.tally es).mergeSort EventTotals.precedes⟩ es := by
  have hperm := List.mergeSort_perm (EventTotals.tally es) EventTotals.precedes
  have hsorted := List.pairwise_mergeSort EventTotals.precedes_trans EventTotals.precedes_total
    (EventTotals.tally es)
  have hdescribe := (EventTotals.describe_tally es).perm hperm
  obtain ⟨hentries, herrors⟩ := EventTotals.sum_tally es
  refine ⟨hdescribe, ?_, ⟨JournalTotals.entries_eq_sum _, ?_⟩, JournalTotals.errors_eq_sum _, ?_⟩
  · refine (hsorted.and (List.pairwise_map.1 hdescribe.distinct)).imp fun ⟨h, hne⟩ => ?_
    exact (EventTotals.precedes_iff.1 h).imp_right fun h => ⟨h.1, lt_of_le_of_ne h.2 hne⟩
  · rw [JournalTotals.entries_eq_sum, (hperm.map _).sum_eq, hentries]
  · rw [JournalTotals.errors_eq_sum, (hperm.map _).sum_eq, herrors]

/-- All lines have room for their sums if and only if the counts of every name
add up to a word with sign.  The sum is cast to `BIGINT`, and one that has no
room there fails the whole query. -/
theorem fits_tally_iff (es : List Entry) :
    (EventTotals.tally es).all (Number.fitsSigned ·.affected) = true ↔
      ∀ name, Number.fitsSigned (EventTotals.summed name es).affected = true := by
  have hdescribe := EventTotals.describe_tally es
  rw [List.all_eq_true]
  constructor
  · intro h name
    by_cases hname : name ∈ (EventTotals.tally es).map (·.event)
    · obtain ⟨t, ht, rfl⟩ := List.mem_map.1 hname
      rw [← hdescribe.line t ht]
      exact h t ht
    · have hnone : ∀ e ∈ es, e.event.name ≠ name :=
        fun e he heq => hname ((hdescribe.named name).2 ⟨e, he, heq⟩)
      rw [EventTotals.summed_of_forall_ne hnone]
      rfl
  · intro h t ht
    rw [hdescribe.line t ht]
    exact h t.event

/-- **Totals match what is left on record** after any calls on a journal, at any
times.

* Left are the entries that outlive all deletions after them, those that were
  there before and those that the calls made.
* One more deletion takes exactly what is older than its cutoff, and says how
  many entries that were.
* If the counts of every event name add up to a word with sign, there are
  totals, and they sum up the entries that are left; if those of one do not,
  there are none. -/
theorem totals_match_what_is_left (calls : List JournalCall) :
    (j.after calls).entries =
      j.entries.filter (fun e => outlives calls e.timestamp) ++ surviving j.nextId calls ∧
    (∀ cutoff : Instant,
      ((j.after calls).prune cutoff).2.entries =
        (j.after calls).entries.filter (fun e => cutoff.millis ≤ e.timestamp) ∧
      ((j.after calls).prune cutoff).1 =
        (j.after calls).entries.countP (fun e => e.timestamp < cutoff.millis)) ∧
    ((∀ name, Number.fitsSigned (EventTotals.summed name (j.after calls).entries).affected = true) →
      ∃ totals, (j.after calls).stats = .ok totals ∧ totals.SumUp (j.after calls).entries) ∧
    ∀ name, Number.fitsSigned (EventTotals.summed name (j.after calls).entries).affected = false →
      (j.after calls).stats = .error .sumTooLarge := by
  have hfits := fits_tally_iff (j.after calls).entries
  have hstats : (j.after calls).stats =
      if (EventTotals.tally (j.after calls).entries).all (Number.fitsSigned ·.affected) then
        .ok ⟨(EventTotals.tally (j.after calls).entries).mergeSort EventTotals.precedes⟩
      else .error .sumTooLarge := rfl
  refine ⟨j.entries_after calls, fun cutoff => ?_, fun h => ?_, fun name hname => ?_⟩
  · obtain ⟨hkept, hcount, -⟩ := (j.after calls).prune_spec cutoff
    exact ⟨hkept, hcount⟩
  · rw [hstats, if_pos (hfits.2 h)]
    exact ⟨_, rfl, sumUp_tally _⟩
  · rw [hstats, if_neg fun h => by simp [hfits.1 h name] at hname]

end Journal

namespace Sample

/-- A service that keeps a journal. -/
def clerk : Author := { entryPoint := .library, version := "1.0.0" }

/-- A bulk run that wrote a number of transactions, on record at a second. -/
def bulkRun (second : Int) (count : Int) : JournalCall :=
  .record clerk ⟨second, 0⟩ { name := Event.rulesApplied, count := some count }

/-- Two bulk runs and a group that failed; what is from before the second run is
deleted. -/
def someRuns : List JournalCall :=
  [bulkRun 1 3, bulkRun 2 5,
    .record clerk ⟨2, 500000⟩
      { name := Event.groupFailed, count := some 2, error := some "locked" },
    .prune ⟨2, 0⟩]

/-- Two bulk runs that each wrote as many transactions as a word can count. -/
def greatestRuns : List JournalCall :=
  [bulkRun 1 9223372036854775807, bulkRun 2 9223372036854775807]

end Sample

/-- Of three entries two are left, one of them about an error, and they are
totalled: the deletion in between takes the first. -/
theorem later_run_and_failed_group_are_totalled :
    (∀ name, Number.fitsSigned
      (EventTotals.summed name (({} : Journal).after Sample.someRuns).entries).affected = true) ∧
    ∃ totals, (({} : Journal).after Sample.someRuns).stats = .ok totals ∧
      totals.SumUp (({} : Journal).after Sample.someRuns).entries ∧
      totals.entries = 2 ∧ totals.errors = 1 := by
  have hfits := (Journal.fits_tally_iff (({} : Journal).after Sample.someRuns).entries).1
    (by decide +kernel)
  obtain ⟨-, -, htotals, -⟩ := Journal.totals_match_what_is_left {} Sample.someRuns
  obtain ⟨totals, hok, hsum⟩ := htotals hfits
  have hentries : (({} : Journal).after Sample.someRuns).entries.length = 2 := by decide +kernel
  have herrors : (({} : Journal).after Sample.someRuns).entries.countP (·.isError) = 1 := by
    decide +kernel
  exact ⟨hfits, totals, hok, hsum, hsum.entries.2.trans hentries, hsum.errors.2.trans herrors⟩

/-- Not every journal has totals: the counts of one event name may add up to
more than a word. -/
theorem greatest_runs_have_no_totals :
    ¬∀ (j : Journal) (calls : List JournalCall), ∃ totals, (j.after calls).stats = .ok totals ∧
      totals.SumUp (j.after calls).entries := by
  intro h
  obtain ⟨totals, hok, -⟩ := h {} Sample.greatestRuns
  have hstats : (({} : Journal).after Sample.greatestRuns).stats = .error .sumTooLarge := by
    decide +kernel
  cases hstats.symm.trans hok

end LedgerRules
