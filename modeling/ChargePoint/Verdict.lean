import ChargePoint.Json.Printer
import ChargePoint.Json.Reader
import ChargePoint.Message.Typed

/-!
# The verdict on a payload

A payload is checked as a message of the type that an operation and a half name.  Of one that is
accepted, the representation of its message is given and, if it is to be normalized, the payload as
the message writes it.  The name of the operation is looked at before the payload.

## Main definitions

* `Settings`: what is to be checked, and what is to be said.
* `CheckFault`: why nothing can be said.
* `Finding`, `Settings.check`: what is found of a payload.
* `Verdict`, `Settings.verdict`: the verdict as a program gives it.
-/

namespace ChargePoint

/-- **What is to be checked**: the name of an operation, which half of it, whether the payload is to
be normalized, and how much is to be told about the course of the check, which has no part in the
verdict. -/
structure Settings where
  action : String
  direction : Direction
  normalize : Bool
  logLevel : String

/-- **Why nothing can be said**: the payload cannot be had, is no JSON, or is no payload of a
message. -/
inductive CheckFault where
  | unreadable
  | malformed
  | payload (fault : PayloadFault)
  deriving DecidableEq

/-- The wording of a fault. -/
def CheckFault.message : CheckFault → String
  | unreadable => "unreadable file"
  | malformed => "malformed JSON"
  | payload fault => fault.message

/-- **What is found of a payload**: what is said, and whether the message is valid. -/
structure Finding where
  text : String
  valid : Bool

/-- The value that octets write, which have to be UTF-8. -/
def Json.ofUtf8? (octets : ByteArray) : Option Json := do
  let text ← String.fromUTF8? octets
  (Json.parse text).toOption

/-- What is said of a message. -/
def TypedMessage.finding (m : TypedMessage) (normalize : Bool) : Except PayloadFault Finding := do
  let text := m.represent
  if normalize then
    return ⟨text ++ "\n" ++ (← m.payload).pretty, Validated.valid m⟩
  else
    return ⟨text, Validated.valid m⟩

namespace Settings

/-- **Check a payload**; `none` stands for a payload that cannot be read. -/
def check (s : Settings) (octets : Option ByteArray) : Except CheckFault Finding := do
  let action ← (Action.parse s.action).mapError CheckFault.payload
  let some octets := octets | throw .unreadable
  let some payload := Json.ofUtf8? octets | throw .malformed
  let message ← (TypedMessage.decode action s.direction payload).mapError CheckFault.payload
  (message.finding s.normalize).mapError CheckFault.payload

end Settings

/-- **A verdict**: the status that a program ends with, what it prints, and what it complains of. -/
structure Verdict where
  exit : Nat
  output : String
  error : Option String
  deriving DecidableEq, Repr

/-- A finding is printed, and the status tells whether the message is valid; without one there is
only a complaint. -/
def Verdict.ofFinding : Except CheckFault Finding → Verdict
  | .ok finding => ⟨if finding.valid then 0 else 1, finding.text ++ "\n", none⟩
  | .error fault => ⟨2, "", some fault.message⟩

/-- **The verdict on a payload**; `none` stands for a payload that cannot be read. -/
def Settings.verdict (s : Settings) (octets : Option ByteArray) : Verdict :=
  .ofFinding (s.check octets)

end ChargePoint
