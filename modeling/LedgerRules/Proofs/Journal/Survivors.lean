/-
# What is on record after many calls

Between calls that put events on record, others delete what is old.  An entry is
still there in the end if it was made no earlier than the cutoff of every
deletion that came after it (`JournalCall.outlives`).  So the entries after any
calls are told by the calls alone: those that were there before, and those that
were made, as far as they outlive what follows (`Journal.entries_after`).

Numbers go up with every entry and are never taken back, so no two entries have
one number (`Journal.Numbered.after`).
-/

import LedgerRules.Journal.Basic

namespace LedgerRules

/-- A call that changes a journal: an event that is put on record, or a deletion
by age.  Reading a journal changes nothing. -/
inductive JournalCall
  | record (author : Author) (now : Instant) (event : Event)
  | prune (cutoff : Instant)
  deriving DecidableEq, Repr

namespace JournalCall

/-- A call spares the entries of a time unless it deletes what is as old.  A
cutoff keeps entries of its own millisecond. -/
def spares (millis : Int) : JournalCall → Bool
  | record .. => true
  | prune cutoff => cutoff.millis ≤ millis

/-- An entry of a time outlives calls that all spare it.  Only the time counts,
not the number of the entry. -/
def outlives (calls : List JournalCall) (millis : Int) : Bool := calls.all (spares millis)

/-- **What outlives calls** was made no earlier than any of their cutoffs.  An
entry of just that time stays. -/
theorem outlives_iff {calls : List JournalCall} {millis : Int} :
    outlives calls millis = true ↔ ∀ cutoff, prune cutoff ∈ calls → cutoff.millis ≤ millis := by
  unfold outlives
  rw [List.all_eq_true]
  constructor
  · exact fun h cutoff hc => of_decide_eq_true (h _ hc)
  · rintro h (_ | cutoff) hc
    · rfl
    · exact decide_eq_true (h cutoff hc)

/-- The entry that is made of an event, as `LoggingService.log` fills the
columns of `sys_logs`. -/
def entry (id : Nat) (author : Author) (now : Instant) (event : Event) : Entry :=
  ⟨id, now.millis, author.entryPoint.name, author.version, author.platform, event⟩

/-- The entries that calls make, numbered from `next` on, without those that a
later call deletes.  Numbers are used up also by entries that are deleted. -/
def surviving : Nat → List JournalCall → List Entry
  | _, [] => []
  | next, record author now event :: calls =>
    if outlives calls now.millis then entry next author now event :: surviving (next + 1) calls
    else surviving (next + 1) calls
  | next, prune _ :: calls => surviving next calls

end JournalCall

namespace Journal

open JournalCall

/-- Carries out a call, without its answer. -/
def perform (j : Journal) : JournalCall → Journal
  | .record author now event => j.record author now event
  | .prune cutoff => (j.prune cutoff).2

/-- Carries out calls one after the other, from a journal that may hold entries
already. -/
def after (j : Journal) (calls : List JournalCall) : Journal := calls.foldl perform j

variable (j : Journal)

/-- **A deletion takes the entries that are older than its cutoff**, and says
how many. -/
theorem prune_spec (cutoff : Instant) :
    (j.prune cutoff).2.entries = j.entries.filter (fun e => cutoff.millis ≤ e.timestamp) ∧
      (j.prune cutoff).1 = j.entries.countP (fun e => e.timestamp < cutoff.millis) ∧
      (j.prune cutoff).1 + (j.prune cutoff).2.entries.length = j.entries.length := by
  have hkept : (j.prune cutoff).2.entries =
      j.entries.filter (fun e => cutoff.millis ≤ e.timestamp) := by
    refine List.filter_congr fun e _ => ?_
    rw [← decide_not, decide_eq_decide]
    exact Int.not_lt
  refine ⟨hkept, rfl, ?_⟩
  have hdeleted := List.length_eq_countP_add_countP
    (fun e : Entry => decide (e.timestamp < cutoff.millis)) (l := j.entries)
  rw [hkept, ← List.countP_eq_length_filter, hdeleted]
  refine congrArg (_ + ·) (List.countP_congr fun e _ => ?_)
  simp

/-- **The entries after calls** are those that outlive all that comes after
them.  By induction on the calls: what is left of the entries before the first
one, and the entry that it may have added, go through the others alike. -/
theorem entries_after (calls : List JournalCall) : (j.after calls).entries =
    j.entries.filter (fun e => outlives calls e.timestamp) ++ surviving j.nextId calls := by
  induction calls generalizing j with
  | nil => exact (List.append_nil _).symm ▸ (List.filter_eq_self.2 fun _ _ => rfl).symm
  | cons c calls ih =>
    have hstep : j.after (c :: calls) = (j.perform c).after calls := rfl
    have hcons : ∀ millis, outlives (c :: calls) millis =
      (c.spares millis && outlives calls millis) :=
      fun millis => List.all_cons
    rw [hstep, ih]
    simp only [hcons]
    cases c with
    | record author now event =>
      show (j.entries ++ [entry j.nextId author now event]).filter _ ++
        surviving (j.nextId + 1) _ = _
      rw [List.filter_append, List.append_assoc, surviving]
      refine congrArg (List.append _) ?_
      rw [List.filter_cons, List.filter_nil]
      show (if outlives calls now.millis = true then _ else _) ++ _ = _
      split <;> rfl
    | prune cutoff =>
      have hentries : (j.perform (.prune cutoff)).entries = _ := (j.prune_spec cutoff).1
      rw [hentries, List.filter_filter, surviving]
      refine congrArg (· ++ surviving j.nextId calls) (List.filter_congr fun e _ => ?_)
      exact Bool.and_comm _ _

/-! ### Numbers -/

/-- The entries stand in the order of their numbers, and the next number is past
them all. -/
structure Numbered (j : Journal) : Prop where
  ascending : (j.entries.map (·.id)).Pairwise (· < ·)
  below : ∀ e ∈ j.entries, e.id < j.nextId

/-- An empty journal is numbered: there is nothing to be out of order. -/
theorem numbered_empty : Numbered {} := ⟨.nil, List.forall_mem_nil _⟩

variable {j}

/-- In a numbered journal no two entries have the same number. -/
theorem Numbered.nodup (h : j.Numbered) : (j.entries.map (·.id)).Nodup :=
  h.ascending.imp Int.ne_of_lt

/-- A call keeps a journal numbered: a record takes the next number, and a
deletion takes out entries without renumbering the others. -/
theorem Numbered.perform (h : j.Numbered) (c : JournalCall) : (j.perform c).Numbered := by
  cases c with
  | record author now event =>
    refine ⟨?_, List.forall_mem_append.2 ⟨fun e he => ?_, fun e he => ?_⟩⟩
    · show ((j.entries ++ [entry j.nextId author now event]).map (·.id)).Pairwise (· < ·)
      rw [List.map_append, List.pairwise_append]
      refine ⟨h.ascending, List.pairwise_singleton _ _, fun a ha b hb => ?_⟩
      obtain ⟨e, he, rfl⟩ := List.mem_map.1 ha
      rw [List.mem_singleton.1 hb]
      exact h.below e he
    · have hlt := h.below e he
      show e.id < ((j.nextId + 1 : Nat) : Int)
      omega
    · rw [List.mem_singleton.1 he]
      show (j.nextId : Int) < ((j.nextId + 1 : Nat) : Int)
      omega
  | prune cutoff =>
    have hkept : (j.prune cutoff).2.entries.Sublist j.entries := List.filter_sublist
    exact ⟨h.ascending.sublist (hkept.map _), fun e he => h.below e (hkept.subset he)⟩

/-- **Numbers stay apart** whatever calls are carried out, so it is enough to
know it of the journal they begin with.  Numbers only go up, also past entries
that were deleted. -/
theorem Numbered.after (h : j.Numbered) (calls : List JournalCall) : (j.after calls).Numbered := by
  induction calls generalizing j with
  | nil => exact h
  | cons c calls ih => exact ih (h.perform c)

end Journal
end LedgerRules
