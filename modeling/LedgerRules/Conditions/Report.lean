/-
# Reported faults

A fault as other programs exchange it: the path it was found at, its message and
its code.

Embeds the written form of `ValidationError`, the member `errors` of a
`ValidationResult`.
-/

import LedgerRules.Conditions.Fault
import LedgerRules.Json.Decode

namespace LedgerRules

/-- A fault as it is reported. -/
structure FaultReport where
  path : String
  message : String
  code : FaultCode
  deriving DecidableEq, Repr

namespace FaultReport

/-- The report of a fault. -/
def ofFault (f : Fault) : FaultReport := ⟨f.place.path, f.cause.message, f.code⟩

/-- The written form. -/
def toJson (r : FaultReport) : Json :=
  .object [("field", .str r.path), ("message", .str r.message), ("code", .str r.code.name)]

/-- The fields in their order. -/
def fields : Json.Decode FaultReport := do
  let path ← Json.required "field" Json.asText?
  let message ← Json.required "message" Json.asText?
  let code ← Json.required "code" (Json.asName? FaultCode.ofName?)
  return ⟨path, message, code⟩

/-- Reads the written form. -/
def ofJson? : Json → Option FaultReport := Json.decode? fields

end FaultReport
end LedgerRules
