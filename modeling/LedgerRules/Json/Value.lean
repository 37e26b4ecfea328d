/-
# JSON values

A JSON value with the members of an object in the order they were written,
repeated keys included.  `settle` brings a value to the form in which it is
compared and written: of a repeated key the last member stays, and keys stand in
ascending order.  A number is a whole number of 64 bits, with or without sign, or a
double; a whole number that was written with a point or an exponent is a double.

Embeds `Value`, `Map` and `Number` of `serde_json`, whose maps are sorted by key.
-/

import LedgerRules.Number.Decimal

namespace LedgerRules

/-- A JSON number. -/
inductive Number
  | whole (n : Int)
  | double (x : Binary64)
  deriving DecidableEq, Repr

/-- A JSON value. -/
inductive Json
  | null
  | bool (b : Bool)
  | num (n : Number)
  | str (s : String)
  | arr (items : List Json)
  | obj (members : List (String × Json))
  deriving Repr

namespace Number

/-- The exponent form begins at `1e16` and ends below `1e-5`; a positive
exponent has a plus. -/
def style : ExponentStyle := ⟨-5, 16, "+"⟩

/-- The text of a number. -/
def toText : Number → String
  | whole n => toString n
  | double x => style.write x

/-- The decimal of a number, if it has one. -/
def toDecimal? : Number → Option Decimal
  | whole n => Decimal.ofInt? n
  | double x => Decimal.ofDouble? x

/-- Whether a whole number fits 64 bits with sign. -/
def fitsSigned (n : Int) : Bool := -9223372036854775808 ≤ n && n ≤ 9223372036854775807

/-- A decimal as a number: whole if it is and has 64 bits with sign, else the
nearest double. -/
def ofDecimal (d : Decimal) : Number :=
  match d.whole? with
  | some n => if fitsSigned n then whole n else double d.toDouble
  | none => double d.toDouble

end Number

namespace Json

instance : Inhabited Json := ⟨null⟩

/-- A whole number. -/
def ofInt (n : Int) : Json := num (.whole n)

/-- A natural number. -/
def ofNat (n : Nat) : Json := num (.whole n)

/-- A text, or null in its absence. -/
def ofText? (s : Option String) : Json := s.elim null str

/-- A whole number, or null in its absence. -/
def ofInt? (n : Option Int) : Json := n.elim null ofInt

/-- The members of an object. -/
def members? : Json → Option (List (String × Json))
  | obj members => some members
  | _ => none

/-- The value of a key in a list of members. -/
def member? (members : List (String × Json)) (key : String) : Option Json := members.lookup key

/-- The value of a key of an object. -/
def get? (j : Json) (key : String) : Option Json :=
  j.members?.bind (member? · key)

/-- Whether a value is null. -/
def isNull : Json → Bool
  | null => true
  | _ => false

/-- Puts a member into members with ascending keys; one of the same key goes. -/
def insertMember (key : String) (value : Json) : List (String × Json) → List (String × Json)
  | [] => [(key, value)]
  | (k, v) :: rest =>
    if key = k then (key, value) :: rest
    else if key < k then (key, value) :: (k, v) :: rest
    else (k, v) :: insertMember key value rest

mutual

/-- The value with every object's members settled. -/
def settle : Json → Json
  | arr items => arr (settleItems items)
  | obj members => obj (settleMembers members [])
  | j => j

/-- Every item settled. -/
def settleItems : List Json → List Json
  | [] => []
  | j :: rest => settle j :: settleItems rest

/-- Members put one after another into settled ones. -/
def settleMembers : List (String × Json) → List (String × Json) → List (String × Json)
  | [], done => done
  | (k, v) :: rest, done => settleMembers rest (insertMember k (settle v) done)

end

/-- An object with the given members, settled. -/
def object (members : List (String × Json)) : Json :=
  obj (members.foldl (fun done (k, v) => insertMember k v done) [])

end Json
end LedgerRules
