import ChargePoint.Action
import ChargePoint.Constraint.Acceptance
import ChargePoint.Json.Basic
import ChargePoint.Shape.Fault

/-!
# Payloads

A payload is the JSON value that carries a message.  Encoding refuses a message that is not valid,
whatever its type; decoding first reads a draft, of which only the shape is known to be right, and
then commits the draft to a message.

## Main definitions

* `PayloadFault`, `PayloadFault.message`: what can go wrong, and its wording.
* `Wire`: the types that have payloads.
* `encode`, `decode`: from a message to its payload, and back.
* `Action.parse`: the operation of a name that was given.
-/

namespace ChargePoint

/-- **What can go wrong with a payload**: its shape is wrong, a constraint is broken, the message
for it is not valid, or there is no operation of that name. -/
inductive PayloadFault where
  | shape (fault : ShapeFault)
  | rejected (rejection : Rejection)
  | invalid (kind : String)
  | unknownAction (name : String)
  deriving DecidableEq

/-- The wording of a fault. -/
def PayloadFault.message : PayloadFault → String
  | shape fault => "payload rejected: " ++ fault.message
  | rejected rejection => rejection.message
  | invalid kind => kind ++ " does not validate"
  | unknownAction name => "Unknown action: " ++ name

/-- The operation with a name that was given for one. -/
def Action.parse (name : String) : Except PayloadFault Action :=
  match ofName? name with
  | some action => .ok action
  | none => .error (.unknownAction name)

/-- **A type that has payloads.**  Its values are judged, and written as trees of JSON; a payload is
read into a draft, which is committed to a value.  Nothing is demanded of the parts: a type may
write values that are not valid, or commit drafts that give such values. -/
class Wire (M : Type) extends Validated M where
  /-- The name of the type in messages. -/
  name : String
  /-- The operation that the type belongs to. -/
  action : Action
  /-- What is read, before any constraint is checked. -/
  Draft : Type
  /-- The tree of a value. -/
  write : M → Except ShapeFault Json
  /-- The draft of a payload. -/
  read : Json → Except ShapeFault Draft
  /-- The value of a draft. -/
  commit : Draft → Except Rejection M

/-- **The payload of a message**, which is refused unless the message is valid. -/
def encode {M : Type} [Wire M] (m : M) : Except PayloadFault Json :=
  if Validated.valid m then ((Wire.write m).map Json.canonical).mapError PayloadFault.shape
  else .error (.invalid (Wire.name M))

/-- **The message of a payload**: its shape is looked at first, then its constraints. -/
def decode (M : Type) [Wire M] (payload : Json) : Except PayloadFault M := do
  let draft ← (Wire.read (M := M) payload).mapError PayloadFault.shape
  (Wire.commit draft).mapError PayloadFault.rejected

end ChargePoint
