import ChargePoint.Json.Reader
import ChargePoint.Shape.Fault

/-!
# Reading texts

There are two ways from a text to what it says.  One goes through the text once, and takes what it
meets in the order in which it is written.  The other collects the value of the text first, and
reads that.  Either way the text has to end where its document ends.

## Main definitions

* `readText`: what is read from a text in one pass.
* `readValue`: what is read from the value of a text.
-/

namespace ChargePoint

variable {α : Type}

/-- **Read a text** as it stands. -/
def readText (read : Doc → Except ReadFault α) (text : String) : Except ReadFault α := do
  let reading := Reading.ofString text
  let a ← read reading.doc
  if reading.ended then return a else .error (.text .malformed)

/-- **Read the value of a text.** -/
def readValue (read : Json → Except ShapeFault α) (text : String) : Except ReadFault α := do
  let v ← (Json.parse text).mapError ReadFault.text
  (read v).mapError ReadFault.shape

end ChargePoint
