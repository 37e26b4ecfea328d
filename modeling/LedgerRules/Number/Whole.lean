/-
# Whole numbers as text

A whole number is written as decimal digits behind an optional sign, with
nothing around them.

Embeds how `i32`, `i64`, `u32` and `usize` are read from a text: by the options
of the commands, by the years, months and days of a date, and by the cells of a
table.
-/

namespace LedgerRules
namespace Whole

/-- The value of a decimal digit. -/
def digit? (c : Char) : Option Nat :=
  if '0' ≤ c ∧ c ≤ '9' then some (c.toNat - '0'.toNat) else none

/-- A run of decimal digits as a number. -/
def ofDigits? (cs : List Char) : Option Nat :=
  if cs.isEmpty then none else cs.foldl (fun n c => do return (← n) * 10 + (← digit? c)) (some 0)

/-- The number a text stands for, with or without a sign. -/
def parse? (s : String) : Option Int :=
  match s.toList with
  | '-' :: ds => (ofDigits? ds).map fun n => -(n : Int)
  | '+' :: ds => (ofDigits? ds).map fun n => (n : Int)
  | ds => (ofDigits? ds).map fun n => (n : Int)

/-- The number a text stands for, if it lies in a range. -/
def parseIn? (lo hi : Int) (s : String) : Option Int :=
  (parse? s).filter fun n => lo ≤ n && n ≤ hi

/-- The number a text without a minus stands for, if it lies below a limit. -/
def parseBelow? (limit : Nat) (s : String) : Option Nat :=
  let digits := match s.toList with
    | '+' :: ds => ds
    | ds => ds
  (ofDigits? digits).filter (· < limit)

/-- A code of 32 bits. -/
def parseInt32? (s : String) : Option Int32 := (parseIn? (-2147483648) 2147483647 s).map Int32.ofInt

/-- A code of 64 bits. -/
def parseInt64? (s : String) : Option Int64 :=
  (parseIn? (-9223372036854775808) 9223372036854775807 s).map Int64.ofInt

end Whole
end LedgerRules
