import ChargePoint.Power
import ChargePoint.Shape.Fault

/-!
# Scalars of fields

Strings, integers and instants are read from the outline of what is found, and so in the same way
from a value and from a document.

## Main definitions

* `Outline.toText`, `Outline.toInteger`, `Outline.toInstant`: the three readings.
* `Json.orNull`, `Doc.orNull`: a reading that takes `null` for an absent value.
* `Doc.scalar`: a reading of outlines, of a document.
-/

namespace ChargePoint

namespace Outline

/-- A string. -/
def toText : Outline → Except ShapeFault String
  | string s => .ok s
  | found => .error (.invalidType found .string)

/-- An integer of 64 bits with a sign. -/
def toInteger : Outline → Except ShapeFault Int
  | number (.whole n) =>
    if n.value < 2 ^ (63 : Nat) then .ok n.value
    else .error (.invalidValue (number (.whole n)) .integer)
  | found => .error (.invalidType found .integer)

/-- An instant, in a string. -/
def toInstant : Outline → Except ShapeFault Instant
  | string s => (Instant.read s).mapError ShapeFault.time
  | found => .error (.invalidType found .instant)

end Outline

/-- A reading that takes `null` for an absent value. -/
def Json.orNull {α : Type} (read : Json → Except ShapeFault α) (v : Json) :
    Except ShapeFault (Option α) :=
  if v.isNull then .ok none else (read v).map some

namespace Doc

/-- A reading that takes `null` for an absent value; the letter `n` can only begin a `null`. -/
def orNull {α : Type} (read : Doc → Except ReadFault α) (doc : Doc) :
    Except ReadFault (Option α) :=
  match doc with
  | .null => .ok none
  | .broken .letterN fault => .error (.text fault)
  | doc => (read doc).map some

/-- A reading of outlines, of a document. -/
def scalar {α : Type} (read : Outline → Except ShapeFault α) (doc : Doc) : Except ReadFault α := do
  let found ← doc.outline.mapError ReadFault.text
  (read found).mapError ReadFault.shape

end Doc

end ChargePoint
