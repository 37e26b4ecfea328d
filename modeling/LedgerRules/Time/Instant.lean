/-
# Points in time

An instant is the number of whole seconds since 1970-01-01 in universal time and
the nanoseconds past them; in a leap second the nanoseconds run on past a
thousand million.

It is written as in RFC 3339 with `Z`, the fraction with as few of 0, 3, 6 or 9
digits as hold it.  Read is a date, one of `T`, `t` and a blank, a time with
seconds, and an offset: `Z`, `UTC`, or a sign, hours and minutes.

Embeds `DateTime<Utc>`: its order, its text, and its reading from JSON, as the
records of the three tables carry it.
-/

import LedgerRules.Number.Power
import LedgerRules.Time.Date

namespace LedgerRules

/-- A point in time. -/
structure Instant where
  seconds : Int
  nanos : Nat
  deriving DecidableEq, Repr

namespace Instant

/-- The instant a number of whole seconds past the start of 1970. -/
def ofSeconds (seconds : Int) : Instant := ⟨seconds, 0⟩

/-- The instant a number of microseconds past the start of 1970. -/
def ofMicros (micros : Int) : Instant := ⟨micros / 1000000, (micros % 1000000).toNat * 1000⟩

/-- Whether the first instant is the earlier one. -/
def before (a b : Instant) : Bool :=
  a.seconds < b.seconds || (a.seconds == b.seconds && a.nanos < b.nanos)

/-- Whether the first instant is not the later one. -/
def atMost (a b : Instant) : Bool := !b.before a

/-- The whole microseconds since the start of 1970. -/
def micros (t : Instant) : Int := t.seconds * 1000000 + (t.nanos / 1000 : Nat)

/-- The whole milliseconds since the start of 1970. -/
def millis (t : Instant) : Int := t.seconds * 1000 + (t.nanos / 1000000 : Nat)

/-- The date in universal time. -/
def date (t : Instant) : Date := ⟨t.seconds / 86400⟩

/-- The second of the day in universal time. -/
def secondOfDay (t : Instant) : Nat := (t.seconds % 86400).toNat

/-- Hours and minutes. -/
def hourMinuteChars (t : Instant) : List Char :=
  Date.padded 2 (t.secondOfDay / 3600) ++ ':' :: Date.padded 2 (t.secondOfDay / 60 % 60)

/-- Hours, minutes and seconds. -/
def clockChars (t : Instant) : List Char :=
  t.hourMinuteChars ++ ':' :: Date.padded 2 (t.secondOfDay % 60 + t.nanos / 1000000000)

/-- The fraction of a second with as few of 0, 3, 6 or 9 digits as hold it. -/
def fractionChars (nanos : Nat) : List Char :=
  if nanos = 0 then []
  else if nanos % 1000000 = 0 then '.' :: Date.padded 3 (nanos / 1000000)
  else if nanos % 1000 = 0 then '.' :: Date.padded 6 (nanos / 1000)
  else '.' :: Date.padded 9 nanos

/-- The text of an instant. -/
def text (t : Instant) : String :=
  String.ofList (t.date.chars ++ 'T' :: t.clockChars ++
    fractionChars (t.nanos % 1000000000) ++ ['Z'])

/-- The date and the time to the minute. -/
def minuteText (t : Instant) : String :=
  String.ofList (t.date.chars ++ ' ' :: t.hourMinuteChars)

/-- The date and the time to the second. -/
def secondText (t : Instant) : String :=
  String.ofList (t.date.chars ++ ' ' :: t.clockChars)

/-- Reads a fraction of a second, in nanoseconds; digits past the ninth are
dropped. -/
def scanFraction? (cs : List Char) : Option (Nat × List Char) :=
  match cs with
  | '.' :: rest =>
    let digits := rest.takeWhile Char.isDigit
    let kept := digits.take 9
    if kept.isEmpty then none
    else some (kept.foldl (fun n c => n * 10 + (c.toNat - 48)) 0 * tenPow (9 - kept.length),
      rest.drop digits.length)
  | _ => some (0, cs)

/-- Two digits as a number. -/
def scanPair? : List Char → Option (Nat × List Char)
  | a :: b :: rest =>
    if a.isDigit && b.isDigit then some ((a.toNat - 48) * 10 + (b.toNat - 48), rest) else none
  | _ => none

/-- Reads an offset from universal time, in seconds. -/
def scanOffset? (cs : List Char) : Option (Int × List Char) :=
  match cs with
  | [] => none
  | c :: rest =>
    if ((c :: rest).take 3).map Char.toLower = ['u', 't', 'c'] then some (0, rest.drop 2)
    else if c = 'Z' ∨ c = 'z' then some (0, rest)
    else if c = '+' ∨ c = '-' ∨ c = '−' then do
      let (hours, rest) ← scanPair? rest
      let (minutes, rest) ← scanPair? (rest.dropWhile fun c => c == ':' || Text.isBlank c)
      if 59 < minutes then none
      let offset : Int := hours * 3600 + minutes * 60
      return (if c = '+' then offset else -offset, rest)
    else none

/-- The instant a text stands for. -/
def parse? (s : String) : Option Instant := do
  let (date, rest) ← Date.scan? true s.toList
  let rest ← match rest with
    | c :: rest => if c = 'T' ∨ c = 't' ∨ c = ' ' then some rest else none
    | [] => none
  let (hour, rest) ← Date.scanNumber? 2 rest
  let (minute, rest) ← Date.scanNumber? 2 (← Date.scanMark? true ':' rest)
  let (second, rest) ← Date.scanNumber? 2 (← Date.scanMark? true ':' rest)
  let (nanos, rest) ← scanFraction? rest
  let (offset, rest) ← scanOffset? (Date.skipBlanks rest)
  if !(Date.skipBlanks rest).isEmpty || 23 < hour || 59 < minute || 60 < second ||
      86400 ≤ offset.natAbs then none
  let leap : Nat := if second = 60 then 1 else 0
  let unshifted := date.day * 86400 + (hour * 3600 + minute * 60 + second : Nat) - leap
  let t : Instant := ⟨unshifted - offset, nanos + leap * 1000000000⟩
  let year := t.date.civil.year
  if Date.minYear ≤ year ∧ year ≤ Date.maxYear then some t else none

end Instant
end LedgerRules
