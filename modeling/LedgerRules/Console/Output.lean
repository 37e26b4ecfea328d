/-
# Output

What a command leaves: an exit code and two texts, one for its results and one for
complaints.  Records are shown as tables or as JSON.

A table has a header, a border around it and a line below the header:

```
┌────┬──────┐
│ ID ┆ Name │
╞════╪══════╡
│ 1  ┆ A    │
└────┴──────┘
```

A cell with several lines makes its row as many lines high.

Embeds `success`, `error`, `warning`, `info` and `create_table`, and the output of
`--json`.  A command that breaks off leaves exit code 101 and nothing of its results
(`Output.breakOff`).
-/

import LedgerRules.Json.Writer

namespace LedgerRules

/-- What a command leaves. -/
structure Output where
  exit : Nat := 0
  out : String := ""
  err : String := ""
  deriving DecidableEq, Repr

namespace Table

/-- The lines of a cell. -/
def cellLines (cell : String) : List (List Char) := cell.toList.splitOn '\n'

/-- The width of a column: that of its longest line. -/
def width (cells : List String) : Nat :=
  (cells.flatMap fun c => (cellLines c).map List.length).foldl max 0

/-- The widths of the columns of rows. -/
def widths (rows : List (List String)) : List Nat :=
  (List.range ((rows.map List.length).foldl max 0)).map fun i => width (rows.map (·[i]?.getD ""))

/-- A border line. -/
def border (left fill cross right : Char) (widths : List Nat) : List Char :=
  left :: [cross].intercalate (widths.map fun w => List.replicate (w + 2) fill) ++ [right]

/-- A line of a cell, filled up to the width of its column. -/
def padded (width : Nat) (line : List Char) : List Char :=
  ' ' :: line ++ List.replicate (width - line.length) ' ' ++ [' ']

/-- The lines of a row. -/
def rowLines (widths : List Nat) (row : List String) : List (List Char) :=
  let cells := row.map cellLines
  (List.range ((cells.map List.length).foldl max 0)).map fun i =>
    '│' :: ['┆'].intercalate ((cells.zip widths).map fun (cell, w) =>
      padded w (cell[i]?.getD [])) ++ ['│']

/-- The lines of a table. -/
def lines (header : List String) (rows : List (List String)) : List String :=
  let ws := widths (header :: rows)
  ([border '┌' '─' '┬' '┐' ws] ++ rowLines ws header ++ [border '╞' '═' '╪' '╡' ws] ++
    rows.flatMap (rowLines ws) ++ [border '└' '─' '┴' '┘' ws]).map String.ofList

end Table

namespace Output

/-- Lines as a text. -/
def ofLines (lines : List String) : String := String.join (lines.map (· ++ "\n"))

/-- Results, line by line. -/
def say (lines : List String) : Output := { out := ofLines lines }

/-- A value in JSON. -/
def sayJson (j : Json) : Output := say [j.pretty]

/-- A failure with its complaint. -/
def fail (message : String) : Output := { exit := 1, err := ofLines [message] }

/-- What is left where a command breaks off: no result, and an exit code of its
own. -/
def breakOff (message : String) : Output := { exit := 101, err := ofLines [message] }

/-- Complaints that precede an output. -/
def complaining (lines : List String) (o : Output) : Output :=
  { o with err := ofLines lines ++ o.err }

/-- A number of bytes in words, in units of 1024 with one place behind the
point. -/
def sizeText (bytes : Nat) : String :=
  let inUnits (unit : Nat) : String :=
    let tenths := bytes * 10 / unit
    let rest := 2 * (bytes * 10 % unit)
    let tenths := if unit < rest ∨ (rest = unit ∧ tenths % 2 = 1) then tenths + 1 else tenths
    s!"{tenths / 10}.{tenths % 10}"
  if 1048576 ≤ bytes then s!"{inUnits 1048576} MB"
  else if 1024 ≤ bytes then s!"{inUnits 1024} KB"
  else s!"{bytes} bytes"

end Output
end LedgerRules
