/-
# Finding one text in another

Whether a text holds another anywhere, at its start or at its end.  Characters
are compared one by one; a test that is to ignore case compares lowercase texts.

Embeds `contains`, `starts_with` and `ends_with` as `evaluate_text` calls them
(section 4.3 of the specification, Evaluator).
-/

namespace LedgerRules
namespace Text

/-- Whether `needle` stands somewhere in a list of characters. -/
def hasInfix (needle : List Char) : List Char → Bool
  | [] => needle.isEmpty
  | c :: cs => needle.isPrefixOf (c :: cs) || hasInfix needle cs

theorem hasInfix_iff {needle hay : List Char} : hasInfix needle hay = true ↔ needle <:+: hay := by
  induction hay with
  | nil => simp [hasInfix]
  | cons c cs ih => simp [hasInfix, ih, List.infix_cons_iff]

/-- Whether the text `s` holds `needle`. -/
def contains (s needle : String) : Bool := hasInfix needle.toList s.toList

/-- Whether the text `s` begins with `start`. -/
def startsWith (s start : String) : Bool := start.toList.isPrefixOf s.toList

/-- Whether the text `s` ends with `tail`. -/
def endsWith (s tail : String) : Bool := tail.toList.isSuffixOf s.toList

end Text
end LedgerRules
