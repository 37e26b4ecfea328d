/-
# Envelopes

An envelope tells success from failure in what programs exchange: data if an
operation succeeded, the text of the error if it failed.

Embeds `OperationResult` with `ok`, `fail` and the conversion of a `Result`
(section 11 of the specification).
-/

import LedgerRules.Error
import LedgerRules.Json.Decode

namespace LedgerRules

/-- The outcome of an operation, for another program to read. -/
structure Envelope (α : Type) where
  success : Bool
  data : Option α
  error : Option String
  deriving DecidableEq, Repr

namespace Envelope

variable {α : Type}

/-- An envelope around data. -/
def ok (data : α) : Envelope α := ⟨true, some data, none⟩

/-- An envelope around the text of an error. -/
def fail (error : String) : Envelope α := ⟨false, none, some error⟩

/-- The envelope of a result. -/
def ofResult : Except Error α → Envelope α
  | .ok data => ok data
  | .error e => fail e.message

/-- The written form. -/
def toJson (write : α → Json) (e : Envelope α) : Json :=
  .object [("success", .bool e.success), ("data", e.data.elim .null write),
    ("error", .ofText? e.error)]

/-- The fields in their order. -/
def fields (read? : Json → Option α) : Json.Decode (Envelope α) := do
  let success ← Json.required "success" Json.asBool?
  let data ← Json.optional "data" read?
  let error ← Json.optional "error" Json.asText?
  return ⟨success, data, error⟩

/-- Reads the written form. -/
def ofJson? (read? : Json → Option α) : Json → Option (Envelope α) := Json.decode? (fields read?)

end Envelope
end LedgerRules
