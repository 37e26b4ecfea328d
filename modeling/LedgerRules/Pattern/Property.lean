/-
# Properties of characters by name

`\p` in a pattern names a set of characters: a trait, a general category or a
script on its own, or a property and one of its values.  Names are compared
loosely: case, blanks, hyphens and underscores do not count, nor does a leading
`is`.  A name is looked for among the traits first, then among the categories, then
among the scripts; the name of a property that has values is none of them.

The classes `\d`, `\s` and `\w` are made of properties too: decimal digits; white
space; letters, marks, decimal digits, connectors and joiners.

Embeds how `regex` looks up `\p{…}`, `\P{…}` and the classes `\d`, `\s` and `\w`.
-/

import LedgerRules.Pattern.AgeTable
import LedgerRules.Pattern.BreakTable
import LedgerRules.Pattern.CategoryTable
import LedgerRules.Pattern.CharSet
import LedgerRules.Pattern.ScriptTable
import LedgerRules.Pattern.TraitTable
import LedgerRules.Text.Blank

namespace LedgerRules
namespace Pattern

/-- A name without what does not count in it. -/
def looseName (s : String) : String :=
  let cs := s.toList
  let (isCut, cs) := match cs with
    | i :: s :: rest => if i.toLower = 'i' ∧ s.toLower = 's' then (true, rest) else (false, cs)
    | _ => (false, cs)
  let kept := (cs.filter fun c =>
    c != ' ' && c != '_' && c != '-' && c.toNat < 128).map Char.toLower
  String.ofList (if isCut && kept == ['c'] then "isc".toList else kept)

/-- The row of a table that one of its names points to. -/
def findRow? (rows : List (List String × List String)) (name : String) : Option (List String) :=
  (rows.find? fun (names, _) => names.contains name).map Prod.snd

/-- The set of a row of a table. -/
def findSet? (rows : List (List String × List String)) (name : String) : Option CharSet :=
  (findRow? rows name).map CharSet.ofRow

/-- The general category of a loose name. -/
def category? (name : String) : Option CharSet :=
  if name = "any" then some .all
  else if name = "assigned" then (findSet? CategoryTable.categories "cn").map .compl
  else if name = "ascii" then some (.range 0 0x7F)
  else findSet? CategoryTable.categories name

/-- The characters that were added up to the version of a loose name. -/
def age? (name : String) : Option CharSet :=
  let upTo := AgeTable.ages.span fun (names, _) => !names.contains name
  match upTo with
  | (before, (_, row) :: _) =>
    some (before.foldl (fun set (_, row) => .union set (CharSet.ofRow row)) (CharSet.ofRow row))
  | (_, []) => none

/-- The loose names of the properties that have values or that no pattern may
name. -/
def valuedNames : List String :=
  ["age", "bc", "bidiclass", "bidimirroringglyph", "bmg", "bidipairedbracket", "bpb",
    "bidipairedbrackettype", "bpt", "blk", "block", "canonicalcombiningclass", "ccc",
    "casefolding", "ce", "compositionexclusion", "decompositionmapping", "dm",
    "decompositiontype", "dt", "ea", "eastasianwidth", "expandsonnfc", "xonfc", "expandsonnfd",
    "xonfd", "expandsonnfkc", "xonfkc", "expandsonnfkd", "xonfkd", "fcnfkcclosure", "fcnfkc",
    "compex", "fullcompositionexclusion", "gc", "generalcategory", "gcb",
    "graphemeclusterbreak", "hangulsyllabletype", "hst", "indicpositionalcategory", "inpc",
    "indicsyllabiccategory", "insc", "isc", "isocomment", "jamoshortname", "jsn", "jg",
    "joininggroup", "joiningtype", "jt", "lb", "linebreak", "lowercasemapping", "nfcqc",
    "nfcquickcheck", "nfdqc", "nfdquickcheck", "nfkccasefold", "nfkccf", "nfkcqc",
    "nfkcquickcheck", "nfkdqc", "nfkdquickcheck", "na", "name", "numerictype", "nt",
    "numericvalue", "nv", "script", "scriptextensions", "scx", "scf", "sfc",
    "simplecasefolding", "sb", "sentencebreak", "simplelowercasemapping", "slc",
    "simpletitlecasemapping", "stc", "simpleuppercasemapping", "suc", "tc",
    "titlecasemapping", "na1", "unicode1name", "uc", "uppercasemapping",
    "verticalorientation", "vo", "wb", "wordbreak", "changeswhennfkccasefolded", "cwkcf"]

/-- The set that a name on its own stands for. -/
def named? (s : String) : Option CharSet :=
  let name := looseName s
  let reserved := ["cf", "sc", "lc"].contains name
  match if reserved then none else findSet? TraitTable.traits name with
  | some set => some set
  | none =>
    if valuedNames.contains name then none
    else (category? name).or (findSet? ScriptTable.scripts name)

/-- The set of the characters for which a property has a value. -/
def valued? (property value : String) : Option CharSet :=
  let property := looseName property
  let value := looseName value
  if ["gc", "generalcategory"].contains property then category? value
  else if ["sc", "script"].contains property then findSet? ScriptTable.scripts value
  else if ["scx", "scriptextensions"].contains property then findSet? ScriptTable.extensions value
  else if ["gcb", "graphemeclusterbreak"].contains property then findSet? BreakTable.graphemes value
  else if ["wb", "wordbreak"].contains property then findSet? BreakTable.words value
  else if ["sb", "sentencebreak"].contains property then findSet? BreakTable.sentences value
  else if property = "age" then age? value
  else none

/-- The set of a row that is known to be there. -/
def rowSet (rows : List (List String × List String)) (name : String) : CharSet :=
  (findSet? rows name).getD .empty

/-- The decimal digits of all scripts. -/
def digits : CharSet := rowSet CategoryTable.categories "nd"

/-- White space. -/
def spaces : CharSet := rowSet TraitTable.traits "wspace"

/-- The characters that make words. -/
def wordChars : CharSet :=
  .union (rowSet TraitTable.traits "alpha") (.union (rowSet CategoryTable.categories "m")
    (.union digits (.union (rowSet CategoryTable.categories "pc") (.range 0x200C 0x200D))))

/-- The digits of ASCII. -/
def asciiDigits : CharSet := .range 48 57

/-- The white space of ASCII. -/
def asciiSpaces : CharSet := .union (.range 9 13) (.single 32)

/-- The word characters of ASCII. -/
def asciiWordChars : CharSet := .table [(48, 57), (65, 90), (95, 95), (97, 122)]

/-- The classes with names between colons, such as `[:alpha:]`. -/
def asciiClass? (name : String) : Option CharSet :=
  [ ("alnum", CharSet.table [(48, 57), (65, 90), (97, 122)]),
    ("alpha", .table [(65, 90), (97, 122)]),
    ("ascii", .range 0 127),
    ("blank", .table [(9, 9), (32, 32)]),
    ("cntrl", .table [(0, 31), (127, 127)]),
    ("digit", asciiDigits),
    ("graph", .range 33 126),
    ("lower", .range 97 122),
    ("print", .range 32 126),
    ("punct", .table [(33, 47), (58, 64), (91, 96), (123, 126)]),
    ("space", asciiSpaces),
    ("upper", .range 65 90),
    ("word", asciiWordChars),
    ("xdigit", .table [(48, 57), (65, 70), (97, 102)]) ].lookup name

end Pattern
end LedgerRules
