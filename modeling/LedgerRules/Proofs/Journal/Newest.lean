/-
# The newest entries that fit

A filter has criteria, any of which may be left out, and a limit.  An entry is
accepted if it meets all criteria that there are (`EntryFilter.accepts_iff`),
and entries come newest first: by time, and of the same time by number
(`Entry.precedes_iff`).

A limit is a word without sign, and is handed on as one with sign.  So a query
answers if and only if its limit is below `2^63`, and then with as many of the
newest entries as the limit allows
(`Journal.newest_are_found_iff_limit_has_sign`).
-/

import LedgerRules.Proofs.Journal.Totals

namespace LedgerRules

/-! ### The order of entries -/

namespace Entry

variable {a b : Entry}

/-- An entry stands before another or level with it if it was made later, or at
the same time and under a number that is not smaller: `ORDER BY timestamp DESC,
id DESC`. -/
theorem precedes_iff : a.precedes b = true ↔
    b.timestamp < a.timestamp ∨ a.timestamp = b.timestamp ∧ b.id ≤ a.id := by
  unfold precedes
  rw [Bool.or_eq_true, Bool.and_eq_true, decide_eq_true_iff, beq_iff_eq, decide_eq_true_iff]

/-- The order of entries is transitive, so sorting by it gives a sorted list. -/
theorem precedes_trans (a b c : Entry) (hab : a.precedes b = true) (hbc : b.precedes c = true) :
    a.precedes c = true := by
  rw [precedes_iff] at *
  omega

/-- Of two entries one stands before the other or level with it. -/
theorem precedes_total (a b : Entry) : (a.precedes b || b.precedes a) = true := by
  rw [Bool.or_eq_true, precedes_iff, precedes_iff]
  omega

/-- The first entry was made later than the second, or at the same time and
after it.  Numbers settle what times leave open, so of two entries with
different numbers one is the newer. -/
def Newer (a b : Entry) : Prop :=
  b.timestamp < a.timestamp ∨ a.timestamp = b.timestamp ∧ b.id < a.id

end Entry

/-! ### Criteria -/

namespace EntryFilter

/-- An entry meets all criteria that a filter has, stated without looking at how
`query` builds its statement from them. -/
structure Fits (f : EntryFilter) (e : Entry) : Prop where
  event : ∀ name, f.event = some name → e.event.name = name
  rule : ∀ id, f.rule = some id → e.event.rule = some id.text
  errors : f.errorsOnly = true → ∃ message, e.event.error = some message

/-- **A filter accepts the entries that meet its criteria**, those that are
given; one that is left out is met by every entry. -/
theorem accepts_iff {f : EntryFilter} {e : Entry} : f.accepts e = true ↔ f.Fits e := by
  have hevent : f.event.all (e.event.name == ·) = true ↔
      ∀ name, f.event = some name → e.event.name = name := by
    cases f.event <;> simp
  have hrule : f.rule.all (fun id => e.event.rule == some id.text) = true ↔
      ∀ id, f.rule = some id → e.event.rule = some id.text := by
    cases f.rule <;> simp
  have herrors : (!f.errorsOnly || e.isError) = true ↔
      (f.errorsOnly = true → ∃ message, e.event.error = some message) := by
    unfold Entry.isError
    rw [← Option.isSome_iff_exists]
    cases f.errorsOnly <;> simp
  unfold accepts
  rw [Bool.and_eq_true, Bool.and_eq_true, hevent, hrule, herrors]
  exact ⟨fun h => ⟨h.1.1, h.1.2, h.2⟩, fun h => ⟨⟨h.event, h.rule⟩, h.errors⟩⟩

instance (f : EntryFilter) (e : Entry) : Decidable (f.Fits e) := decidable_of_iff _ accepts_iff

/-- Deciding whether an entry meets the criteria is what the filter does. -/
theorem decide_fits (f : EntryFilter) (e : Entry) : decide (f.Fits e) = f.accepts e := by
  rw [Bool.eq_iff_iff, decide_eq_true_iff, accepts_iff]

end EntryFilter

/-! ### Queries -/

namespace Journal

/-- The entries of a journal that meet the criteria of a filter, each as often
as it is on record and none before a newer one; entries with numbers of their
own stand strictly newest first. -/
structure ListsNewest (j : Journal) (f : EntryFilter) (es : List Entry) : Prop where
  entries : es.Perm (j.entries.filter fun e => f.Fits e)
  ordered : es.Pairwise fun a b => ¬b.Newer a
  strict : (j.entries.map (·.id)).Nodup → es.Pairwise Entry.Newer

variable (j : Journal) (f : EntryFilter)

/-- Sorting what a filter accepts lists the newest entries first. -/
theorem listsNewest_mergeSort :
    j.ListsNewest f ((j.entries.filter f.accepts).mergeSort Entry.precedes) := by
  have hsorted := List.pairwise_mergeSort Entry.precedes_trans Entry.precedes_total
    (j.entries.filter f.accepts)
  have hperm := List.mergeSort_perm (j.entries.filter f.accepts) Entry.precedes
  refine ⟨?_, hsorted.imp fun h => ?_, fun hids => ?_⟩
  · simp only [EntryFilter.decide_fits]
    exact hperm
  · rw [Entry.precedes_iff] at h
    unfold Entry.Newer
    omega
  · -- Among numbers of their own, level entries are one entry.
    have hnodup : (j.entries.filter f.accepts).Pairwise fun a b => a.id ≠ b.id :=
      (List.pairwise_map.1 hids).filter _
    have hdistinct := (hperm.pairwise_iff fun h => h.symm).2 hnodup
    refine (hsorted.and hdistinct).imp fun ⟨h, hne⟩ => ?_
    rw [Entry.precedes_iff] at h
    unfold Entry.Newer
    omega

/-- The limit has a place in a word with sign, and then so many entries are
taken, or it has none, and then the statement is refused. -/
theorem query_cases : (f.limit < 2 ^ 63 ∧ j.query f =
      .ok (((j.entries.filter f.accepts).mergeSort Entry.precedes).take f.limit)) ∨
    (2 ^ 63 ≤ f.limit ∧ j.query f = .error .limitTooLarge) := by
  have hfits : Number.fitsSigned f.limit = true ↔ f.limit < 2 ^ 63 := by
    unfold Number.fitsSigned
    rw [Bool.and_eq_true, decide_eq_true_iff, decide_eq_true_iff]
    omega
  unfold query
  by_cases hlimit : f.limit < 2 ^ 63
  · exact .inl ⟨hlimit, by rw [if_pos (hfits.2 hlimit)]⟩
  · exact .inr ⟨not_lt.1 hlimit, by rw [if_neg fun h => hlimit (hfits.1 h)]⟩

/-- **In a journal that calls have made, a query finds entries strictly newest
first.** Numbers go up from an empty journal on and are never taken back, so
every entry has one of its own and it is never open which of two comes first. -/
theorem newer_of_query_after {calls : List JournalCall} {found : List Entry}
    (h : (({} : Journal).after calls).query f = .ok found) : found.Pairwise Entry.Newer := by
  have hids : ((({} : Journal).after calls).entries.map (·.id)).Nodup :=
    (numbered_empty.after calls).nodup
  have hstrict := ((({} : Journal).after calls).listsNewest_mergeSort f).strict hids
  rcases (({} : Journal).after calls).query_cases f with ⟨-, hok⟩ | ⟨-, herror⟩
  · obtain rfl := Except.ok.inj (hok.symm.trans h)
    exact hstrict.sublist (List.take_sublist f.limit _)
  · cases herror.symm.trans h

/-- **A query answers with the newest entries that fit**, as many as its limit
allows, if and only if the limit is below `2^63`; with any other it fails,
whatever is on record. -/
theorem newest_are_found_iff_limit_has_sign :
    ((∃ found, j.query f = .ok found) ↔ f.limit < 2 ^ 63) ∧
    (∀ found, j.query f = .ok found → ∃ all, j.ListsNewest f all ∧ found = all.take f.limit ∧
      found.length = min f.limit (j.entries.filter fun e => f.Fits e).length) ∧
    (2 ^ 63 ≤ f.limit → j.query f = .error .limitTooLarge) := by
  have hlists := j.listsNewest_mergeSort f
  rcases j.query_cases f with ⟨hlimit, hok⟩ | ⟨hlimit, herror⟩
  · refine ⟨iff_of_true ⟨_, hok⟩ hlimit, fun found hfound => ?_,
      fun h => absurd hlimit (not_lt.2 h)⟩
    obtain rfl := Except.ok.inj (hok.symm.trans hfound)
    exact ⟨_, hlists, rfl, by rw [List.length_take, hlists.entries.length_eq]⟩
  · refine ⟨iff_of_false ?_ (not_lt.2 hlimit), fun found hfound => ?_, fun _ => herror⟩
    · rintro ⟨found, hfound⟩
      cases herror.symm.trans hfound
    · cases herror.symm.trans hfound

end Journal

namespace Sample

/-- The latest bulk run. -/
def latest : EntryFilter := { event := some Event.rulesApplied, limit := 1 }

/-- All bulk runs, if there are not more than `2^63`. -/
def greedy : EntryFilter := { latest with limit := 9223372036854775808 }

end Sample

/-- Of two bulk runs and a failed group the later run alone is found where the
limit is one, and with a limit of `2^63` nothing is, although fewer entries are
on record. -/
theorem later_run_is_found_within_the_limit :
    (∃ all, (({} : Journal).after (Sample.someRuns.take 3)).ListsNewest Sample.latest all ∧
      (({} : Journal).after (Sample.someRuns.take 3)).query Sample.latest = .ok (all.take 1) ∧
      all.length = 2) ∧
    2 ^ 63 ≤ Sample.greedy.limit ∧
    (({} : Journal).after (Sample.someRuns.take 3)).query Sample.greedy =
    .error .limitTooLarge := by
  obtain ⟨hanswers, hfound, -⟩ :=
    (({} : Journal).after (Sample.someRuns.take 3)).newest_are_found_iff_limit_has_sign
      Sample.latest
  obtain ⟨-, -, hfails⟩ :=
    (({} : Journal).after (Sample.someRuns.take 3)).newest_are_found_iff_limit_has_sign
      Sample.greedy
  obtain ⟨found, hok⟩ := hanswers.2 (by decide)
  obtain ⟨all, hall, rfl, -⟩ := hfound found hok
  refine ⟨⟨all, hall, hok, ?_⟩, by decide, hfails (by decide)⟩
  rw [hall.entries.length_eq]
  decide +kernel

end LedgerRules
