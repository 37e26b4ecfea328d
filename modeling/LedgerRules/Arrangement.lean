/-
# Orders that are left open

Some lists come in an order that nothing settles: rows that are level in all
that a statement sorts them by, or the members of a map that is written out.  An
`Arrangement` is one way in which that may go.  It puts every list into some
order and loses nothing; which order that is stays open, so what is shown for
every arrangement holds however it goes.

The program has two such places.  `ORDER BY` in the statements of
`DuckDbRepository` does not say which of two level rows comes first, and
`Config.save` writes the members it does not manage from a `HashMap`, whose
order changes from run to run.
-/

namespace LedgerRules

/-- An order for every list, with the same elements. -/
structure Arrangement (α : Type) where
  order : List α → List α
  perm : ∀ l, (order l).Perm l

namespace Arrangement

variable {α : Type}

/-- Lists stay as they are. -/
def asGiven : Arrangement α := ⟨id, fun _ => .refl _⟩

instance : Inhabited (Arrangement α) := ⟨asGiven⟩

/-- A list sorted by `le`; elements that are level in it come as they are
arranged. -/
def sort (a : Arrangement α) (le : α → α → Bool) (l : List α) : List α :=
  (a.order l).mergeSort le

end Arrangement
end LedgerRules
