/-
# Powers

The powers of two and of ten that positional writing scales numbers by.

They serve `LedgerRules.Number.Decimal`, `LedgerRules.Number.Binary64` and
`LedgerRules.Number.Shortest`.
-/

namespace LedgerRules

/-- The power `2^n`. -/
def twoPow (n : Nat) : Nat := Nat.pow 2 n

/-- The power `10^n`. -/
def tenPow (n : Nat) : Nat := Nat.pow 10 n

theorem tenPow_pos : ∀ n : Nat, 0 < tenPow n
  | 0 => Nat.one_pos
  | n + 1 => Nat.mul_pos (tenPow_pos n) (by decide)

end LedgerRules
