import ChargePoint.Message.Basic
import ChargePoint.Payload.Exchange

/-!
# Typed messages

The type of a message that comes in is known only from the name of its operation and from its place
in the exchange.  A message of any type is a type together with a message of it; two of them are
equal only if their types are.

## Main definitions

* `TypedMessage`: a message with its type.
* `TypedMessage.payload`: its payload.
* `TypedMessage.decode`: the message of a payload, of the type that an operation and a half name.
-/

namespace ChargePoint

instance (t : MessageType) : Wire (Message t) where
  name := t.name
  action := t.action
  Draft := Message.Draft t
  write m := .ok m.write
  read := Message.readDraft t
  commit := Message.ofDraft

instance (action : Action) :
    Request (Message ⟨action, .request⟩) (Message ⟨action, .response⟩) where
  needsTransaction := action.needsTransaction

/-- **A message of any type.** -/
structure TypedMessage where
  type : MessageType
  message : Message type

namespace TypedMessage

/-- The name of the type. -/
def name (m : TypedMessage) : String := m.type.name

/-- The operation that the message belongs to. -/
def action (m : TypedMessage) : Action := m.type.action

/-- The half of the operation that the message is. -/
def direction (m : TypedMessage) : Direction := m.type.direction

/-- Whether the message has to be bound to a running transaction, of a request. -/
def needsTransaction? (m : TypedMessage) : Option Bool :=
  match m.direction with
  | .request => some m.action.needsTransaction
  | .response => none

instance : Validated TypedMessage := ⟨fun m => Validated.valid m.message⟩

/-- Equality: of messages of one type. -/
protected def beq (m n : TypedMessage) : Bool :=
  if h : m.type = n.type then h ▸ m.message == n.message else false

instance : BEq TypedMessage := ⟨TypedMessage.beq⟩

instance : Fingerprint TypedMessage := ⟨fun m => Fingerprint.items m.message⟩

instance : Diagnostic TypedMessage := ⟨fun m => Diagnostic.text m.message⟩

/-- The message in a message to people. -/
def represent (m : TypedMessage) : String := m.message.represent

/-- **The payload of a message.** -/
def payload (m : TypedMessage) : Except PayloadFault Json := encode m.message

/-- **The message of a payload**, of the type that an operation and a half name. -/
def decode (action : Action) (direction : Direction) (payload : Json) :
    Except PayloadFault TypedMessage := do
  return ⟨⟨action, direction⟩, ← ChargePoint.decode (Message ⟨action, direction⟩) payload⟩

end TypedMessage

end ChargePoint
