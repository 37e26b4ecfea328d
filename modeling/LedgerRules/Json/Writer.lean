/-
# Writing JSON

Two written forms of a value: `compact` has no blanks, `pretty` puts each item and
each member on a line of its own, two spaces deeper than the bracket around it.
In a text only the quote, the backslash and the control characters below `U+0020`
are escaped.

Embeds `to_string` and `to_string_pretty` of `serde_json`: the first writes rule
bodies into a column, the second writes the settings and the output of `--json`.
-/

import LedgerRules.Json.Value
import LedgerRules.Text.Hex

namespace LedgerRules
namespace Json

/-- A character as it stands inside quotes. -/
def escapeChar (c : Char) : List Char :=
  if c = '"' then ['\\', '"']
  else if c = '\\' then ['\\', '\\']
  else if c = '\n' then ['\\', 'n']
  else if c = '\r' then ['\\', 'r']
  else if c = '\t' then ['\\', 't']
  else if c = Char.ofNat 8 then ['\\', 'b']
  else if c = Char.ofNat 12 then ['\\', 'f']
  else if c.toNat < 0x20 then ['\\', 'u', '0', '0'] ++ Text.hexChars 2 c.toNat
  else [c]

/-- A text in quotes. -/
def quote (s : String) : List Char :=
  '"' :: s.toList.flatMap escapeChar ++ ['"']

/-- The written form of a value without items or members. -/
def scalar : Json → List Char
  | null => "null".toList
  | bool true => "true".toList
  | bool false => "false".toList
  | num n => n.toText.toList
  | str s => quote s
  | arr _ => []
  | obj _ => []

mutual

/-- The written form without blanks. -/
def compactChars : Json → List Char
  | arr [] => ['[', ']']
  | arr (j :: rest) => '[' :: compactChars j ++ compactItems rest ++ [']']
  | obj [] => ['\x7b', '\x7d']
  | obj ((k, v) :: rest) => '\x7b' :: quote k ++ ':' :: compactChars v ++ compactMembers rest ++
    ['\x7d']
  | j => scalar j

/-- The items behind the first, each with its comma. -/
def compactItems : List Json → List Char
  | [] => []
  | j :: rest => ',' :: compactChars j ++ compactItems rest

/-- The members behind the first, each with its comma. -/
def compactMembers : List (String × Json) → List Char
  | [] => []
  | (k, v) :: rest => ',' :: quote k ++ ':' :: compactChars v ++ compactMembers rest

end

/-- A line break and the indentation of a depth. -/
def newline (depth : Nat) : List Char :=
  '\n' :: List.replicate (2 * depth) ' '

mutual

/-- The written form over several lines, inside `depth` brackets. -/
def prettyChars (depth : Nat) : Json → List Char
  | arr [] => ['[', ']']
  | arr (j :: rest) =>
    '[' :: newline (depth + 1) ++ prettyChars (depth + 1) j ++ prettyItems (depth + 1) rest ++
      newline depth ++ [']']
  | obj [] => ['\x7b', '\x7d']
  | obj ((k, v) :: rest) =>
    '\x7b' :: newline (depth + 1) ++ quote k ++ ':' :: ' ' :: prettyChars (depth + 1) v ++
      prettyMembers (depth + 1) rest ++ newline depth ++ ['\x7d']
  | j => scalar j

/-- The items behind the first, each on its line. -/
def prettyItems (depth : Nat) : List Json → List Char
  | [] => []
  | j :: rest => ',' :: newline depth ++ prettyChars depth j ++ prettyItems depth rest

/-- The members behind the first, each on its line. -/
def prettyMembers (depth : Nat) : List (String × Json) → List Char
  | [] => []
  | (k, v) :: rest =>
    ',' :: newline depth ++ quote k ++ ':' :: ' ' :: prettyChars depth v ++
      prettyMembers depth rest

end

/-- The text of a value without blanks. -/
def compact (j : Json) : String := String.ofList (compactChars j)

/-- The text of a value over several lines. -/
def pretty (j : Json) : String := String.ofList (prettyChars 0 j)

end Json
end LedgerRules
