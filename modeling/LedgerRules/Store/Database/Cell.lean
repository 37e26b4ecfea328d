/-
# Cells

What a column of a table can hold where that is not simply a value of ours.
Dates and times have an infinite value at either end; times are kept in whole
microseconds; an amount is kept in hundredths, with at most 18 digits.

A date is shown with its year counted from 1, before or after the beginning of
the era: `0044-03-15 (BC)`.  A time is shown with as many places behind the
second as it needs.  A cell can hold more than its text lets one read back: only
years of four digits are read.

A text put into a cell is read more freely: `2025/1/2`, a minus or `(BC)` for a
year before the era, a date without a time of day.

Embeds the column types `DATE`, `TIMESTAMP` and `DECIMAL(18, 2)` with their
casts from and to text, and `format_timestamp`, `parse_timestamp` and
`parse_date`, which stand between them and the records.
-/

import LedgerRules.Number.Decimal
import LedgerRules.Text.Case
import LedgerRules.Time.Instant

namespace LedgerRules

/-- A value, or one beyond all values.  Columns of dates and times can hold the
two ends, but nothing can be read from them. -/
inductive Extended (α : Type)
  | negInfinity
  | finite (value : α)
  | infinity
  deriving DecidableEq, Repr

/-- A cell with a date. -/
abbrev DateCell := Extended Date

/-- A cell with a time, in microseconds. -/
abbrev TimeCell := Extended Int

namespace Extended

/-- The order of cells: between the ends, values in the order of a key. -/
def atMost {α : Type} (key : α → Int) : Extended α → Extended α → Bool
  | negInfinity, _ => true
  | _, infinity => true
  | finite a, finite b => key a ≤ key b
  | _, _ => false

/-- The text of a cell. -/
def text {α : Type} (show_ : α → String) : Extended α → String
  | negInfinity => "-infinity"
  | finite a => show_ a
  | infinity => "infinity"

/-- The cell that a word names. -/
def ofWord? {α : Type} (word : String) : Option (Extended α) :=
  if Text.asciiCaseEq word "infinity" then some infinity
  else if Text.asciiCaseEq word "-infinity" then some negInfinity
  else none

end Extended

namespace Date

/-- The text of a date in a cell. -/
def cellChars (d : Date) : List Char :=
  let c := d.civil
  let year := if c.year ≤ 0 then (1 - c.year).toNat else c.year.toNat
  padded 4 year ++ '-' :: padded 2 c.month ++ '-' :: padded 2 c.day ++
    (if c.year ≤ 0 then " (BC)".toList else [])

/-- The text of a date in a cell, as the cast to `VARCHAR` writes it. -/
def cellText (d : Date) : String := String.ofList d.cellChars

/-- Whether a character can divide the numbers of a date. -/
def dividesDate (c : Char) : Bool := c == '-' || c == '/' || c == ' ' || c == '\\'

/-- Reads a mark for a year before the era. -/
def scanBefore (cs : List Char) : Bool × List Char :=
  match cs with
  | ' ' :: '(' :: b :: c :: ')' :: rest =>
    if [b, c].map Text.asciiLower = ['b', 'c'] then (true, rest) else (false, cs)
  | _ => (false, cs)

/-- Reads the text of a cell up to the end of its date.  A year before the era
has a minus, counted from 0, or the mark `(BC)`, counted from 1. -/
def scanCell? (cs : List Char) : Option (Date × List Char) := do
  let minus := cs.head? == some '-'
  let (year, rest) ← scanDigits? 9 (if minus then cs.tail else cs)
  let mark ← rest.head?
  if !dividesDate mark then none
  let (month, rest) ← scanDigits? 2 rest.tail
  let (day, rest) ← scanDigits? 2 (← scanMark? false mark rest)
  let (before, rest) := scanBefore rest
  if before && (minus || year == 0) then none
  let date ← ofCivil? ⟨if before then 1 - (year : Int) else if minus then -(year : Int) else year,
    month, day⟩
  return (date, rest)

/-- The cell for a date; a date past the year 9999 has none. -/
def toCell? (d : Date) : Option DateCell :=
  if d.civil.year ≤ 9999 then some (.finite d) else none

end Date

namespace DateCell

/-- Whether a date is not the later one. -/
def atMost (a b : DateCell) : Bool := Extended.atMost Date.day a b

/-- The date in a cell, or the text that cannot be read. -/
def read (c : DateCell) : Except String Date :=
  let text := Extended.text Date.cellText c
  match Date.parse? false text with
  | some d => .ok d
  | none => .error text

/-- The cell that a text stands for; behind the date may be anything but a
digit. -/
def ofText? (s : String) : Option DateCell :=
  let word := Text.trim s
  (Extended.ofWord? word).or (match Date.scanCell? word.toList with
    | some (d, rest) => if rest.head?.any Char.isDigit then none else some (.finite d)
    | none => none)

end DateCell

namespace Instant

/-- The text of a time in a cell. -/
def cellText (t : Instant) : String :=
  let micros := t.nanos / 1000
  let places := (Date.padded 6 micros).reverse.dropWhile (· == '0')
  String.ofList (t.date.cellChars ++ ' ' :: t.clockChars ++
    (if micros = 0 then [] else '.' :: places.reverse))

/-- The cell for a time; a time past the year 9999 has none. -/
def toCell? (t : Instant) : Option TimeCell :=
  if t.date.civil.year ≤ 9999 then some (.finite t.micros) else none

end Instant

namespace TimeCell

/-- Whether a time is not the later one. -/
def atMost (a b : TimeCell) : Bool := Extended.atMost (fun micros => micros) a b

/-- The text of a cell. -/
def text (c : TimeCell) : String :=
  Extended.text (fun micros => (Instant.ofMicros micros).cellText) c

/-- The time in a cell, or the text that cannot be read. -/
def read (c : TimeCell) : Except String Instant :=
  match c with
  | .finite micros =>
    let t := Instant.ofMicros micros
    if (Date.parse? false t.date.cellText).isSome then .ok t else .error c.text
  | _ => .error c.text

/-- The cell that a text stands for: a date, alone or with a time of day, which
is in universal time unless it has an offset. -/
def ofText? (s : String) : Option TimeCell :=
  let word := Text.trim s
  (Extended.ofWord? word).or do
    let (date, rest) ← Date.scanCell? word.toList
    let clock ← match rest with
      | [] => some "00:00:00".toList
      | c :: rest => if c = ' ' ∨ c = 'T' then some rest else none
    let read (clock : List Char) : Option Instant :=
      Instant.parse? (String.ofList (date.chars ++ 'T' :: clock))
    let t ← (read clock).or (read (clock ++ ['Z']))
    return .finite t.micros

end TimeCell

namespace Decimal

/-- The first number of hundredths that has no room in a cell of type
`DECIMAL(18,2)`. -/
def centsLimit : Nat := tenPow 18

/-- The cell for an amount, in hundredths, if it has room. -/
def toCell? (d : Decimal) : Option Int :=
  if d.toCents.natAbs < centsLimit then some d.toCents else none

/-- The amount of a number of hundredths. -/
def ofCents (cents : Int) : Decimal := (ofParts? cents 2).getD zero

end Decimal
end LedgerRules
