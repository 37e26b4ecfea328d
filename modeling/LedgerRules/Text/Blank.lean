/-
# Blanks

The white space of Unicode (the property `White_Space`, 25 characters) and the
cut that names, currencies and merchants go through: `trim` takes the blanks off
both ends and leaves those inside.

Embeds `str.trim`, as `Rule.normalize_merchant`, `Account.normalize_currency` and
the checks of names and operands call it.
-/

namespace LedgerRules
namespace Text

/-- Whether a character is white space in the sense of Unicode. -/
def isBlank (c : Char) : Bool :=
  let n := c.toNat
  (9 ≤ n && n ≤ 13) || n == 0x20 || n == 0x85 || n == 0xA0 || n == 0x1680 ||
    (0x2000 ≤ n && n ≤ 0x200A) || n == 0x2028 || n == 0x2029 || n == 0x202F ||
    n == 0x205F || n == 0x3000

/-- The characters without the blanks at either end. -/
def trimChars (cs : List Char) : List Char :=
  ((cs.dropWhile isBlank).reverse.dropWhile isBlank).reverse

/-- A text without the blanks at either end. -/
def trim (s : String) : String :=
  String.ofList (trimChars s.toList)

/-- Whether nothing is left of a text once its ends are trimmed. -/
def isBlankText (s : String) : Bool :=
  s.toList.all isBlank

end Text
end LedgerRules
