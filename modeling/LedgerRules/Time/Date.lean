/-
# Dates

A date of the Gregorian calendar is the number of its days since 1970-01-01.
Years reach from -262143 to 262142.  A date is written `YYYY-MM-DD`; a year that
does not have four digits is written with a sign.

Reading is more liberal than writing: months and days may have one digit, blanks
may stand before a number, and with a sign a year may have any number of digits.

Embeds `NaiveDate` with `parse_from_str` for `%Y-%m-%d`, as the options `--date`
and the cells of a table are read, and its text.
-/

import LedgerRules.Text.Blank

namespace LedgerRules

/-- A date as the number of days since 1970-01-01. -/
structure Date where
  day : Int
  deriving DecidableEq, Repr

/-- A calendar date by its numbers. -/
structure Civil where
  year : Int
  month : Nat
  day : Nat
  deriving DecidableEq, Repr

namespace Date

/-- The least year. -/
def minYear : Int := -262143

/-- The greatest year. -/
def maxYear : Int := 262142

/-- Whether a year has a 29th of February. -/
def isLeap (year : Int) : Bool := year % 4 == 0 && (year % 100 != 0 || year % 400 == 0)

/-- The number of days of a month. -/
def monthLength (year : Int) (month : Nat) : Nat :=
  if month = 2 then (if isLeap year then 29 else 28)
  else if month = 4 ∨ month = 6 ∨ month = 9 ∨ month = 11 then 30
  else 31

/-- The day number of a calendar date; years are counted from March, so that the
leap day ends one. -/
def dayNumber (c : Civil) : Int :=
  let y := if c.month ≤ 2 then c.year - 1 else c.year
  let era := y / 400
  let yearOfEra := y % 400
  let dayOfYear : Int := (153 * (((c.month : Int) + 9) % 12) + 2) / 5 + c.day - 1
  let dayOfEra := yearOfEra * 365 + yearOfEra / 4 - yearOfEra / 100 + dayOfYear
  era * 146097 + dayOfEra - 719468

/-- The date of a year, a month and a day, if there is one. -/
def ofCivil? (c : Civil) : Option Date :=
  if minYear ≤ c.year ∧ c.year ≤ maxYear ∧ 1 ≤ c.month ∧ c.month ≤ 12 ∧ 1 ≤ c.day ∧
      c.day ≤ monthLength c.year c.month then
    some ⟨dayNumber c⟩
  else none

/-- The year, the month and the day of a date. -/
def civil (d : Date) : Civil :=
  let z := d.day + 719468
  let era := z / 146097
  let dayOfEra := z % 146097
  let yearOfEra := (dayOfEra - dayOfEra / 1460 + dayOfEra / 36524 - dayOfEra / 146096) / 365
  let dayOfYear := dayOfEra - (365 * yearOfEra + yearOfEra / 4 - yearOfEra / 100)
  let mp := (5 * dayOfYear + 2) / 153
  let month := if mp < 10 then mp + 3 else mp - 9
  let year := yearOfEra + era * 400
  ⟨if month ≤ 2 then year + 1 else year, month.toNat, (dayOfYear - (153 * mp + 2) / 5 + 1).toNat⟩

/-- A number with zeros before it up to a width. -/
def padded (width n : Nat) : List Char :=
  let digits := Nat.toDigits 10 n
  List.replicate (width - digits.length) '0' ++ digits

/-- The written form of a year. -/
def yearText (year : Int) : List Char :=
  if 0 ≤ year ∧ year ≤ 9999 then padded 4 year.toNat
  else (if year < 0 then '-' else '+') :: padded 4 year.natAbs

/-- The written form of a date. -/
def chars (d : Date) : List Char :=
  let c := d.civil
  yearText c.year ++ '-' :: padded 2 c.month ++ '-' :: padded 2 c.day

/-- The text of a date. -/
def text (d : Date) : String := String.ofList d.chars

/-- A text without the blanks at its start. -/
def skipBlanks (cs : List Char) : List Char := cs.dropWhile Text.isBlank

/-- Reads at least one and at most `most` digits as a number. -/
def scanDigits? (most : Nat) (cs : List Char) : Option (Nat × List Char) :=
  let digits := (cs.take most).takeWhile Char.isDigit
  if digits.isEmpty then none
  else some (digits.foldl (fun n c => n * 10 + (c.toNat - 48)) 0, cs.drop digits.length)

/-- Reads a number of at most `most` digits behind blanks. -/
def scanNumber? (most : Nat) (cs : List Char) : Option (Nat × List Char) :=
  scanDigits? most (skipBlanks cs)

/-- Reads a year: up to four digits, or a sign and any number of them. -/
def scanYear? (cs : List Char) : Option (Int × List Char) :=
  match skipBlanks cs with
  | '-' :: rest => (scanDigits? rest.length rest).map fun (n, rest) => (-(n : Int), rest)
  | '+' :: rest => (scanDigits? rest.length rest).map fun (n, rest) => ((n : Int), rest)
  | rest => (scanDigits? 4 rest).map fun (n, rest) => ((n : Int), rest)

/-- Reads a mark; with `loose` blanks may stand before it. -/
def scanMark? (loose : Bool) (mark : Char) (cs : List Char) : Option (List Char) :=
  match if loose then skipBlanks cs else cs with
  | c :: rest => if c = mark then some rest else none
  | [] => none

/-- Reads a date at the start of a text. -/
def scan? (loose : Bool) (cs : List Char) : Option (Date × List Char) := do
  let (year, rest) ← scanYear? cs
  let (month, rest) ← scanNumber? 2 (← scanMark? loose '-' rest)
  let (day, rest) ← scanNumber? 2 (← scanMark? loose '-' rest)
  return (← ofCivil? ⟨year, month, day⟩, rest)

/-- The date a text stands for; with `loose` blanks may stand before the
hyphens. -/
def parse? (loose : Bool) (s : String) : Option Date :=
  match scan? loose s.toList with
  | some (d, []) => some d
  | _ => none

end Date
end LedgerRules
