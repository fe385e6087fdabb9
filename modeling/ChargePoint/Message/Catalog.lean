import ChargePoint.Action
import ChargePoint.Message.Field

/-!
# The catalog

The types of messages, two for each operation, and the fields of these ten messages.

## Main definitions

* `MessageType`: the types of messages.
* `MessageType.fields`: the fields of a message, in the order in which they are declared.
-/

namespace ChargePoint

/-- **A type of messages**: one half of an operation. -/
structure MessageType where
  action : Action
  direction : Direction
  deriving DecidableEq, Repr

namespace MessageType

/-- The name of a type. -/
def name (t : MessageType) : String :=
  t.action.name ++
    match t.direction with
    | .request => "Request"
    | .response => "Response"

/-- All types, in the order of the catalog. -/
def all : List MessageType :=
  Action.all.flatMap fun action => [⟨action, .request⟩, ⟨action, .response⟩]

/-- The type with a name. -/
def ofName? (name : String) : Option MessageType := all.find? fun t => t.name == name

/-- The custom data of any message. -/
def customData : Field := ⟨"customData", .customData, .optional⟩

/-- The status of a response. -/
def status (vocabulary : Vocabulary) : Field := ⟨"status", .status vocabulary, .required⟩

/-- What a response adds to its status. -/
def statusInfo : Field := ⟨"statusInfo", .statusInfo, .optional⟩

/-- What is transferred, in either half. -/
def data : Field := ⟨"data", .data, .optional⟩

/-- **The fields of a message**, in the order in which they are declared. -/
def fields : MessageType → List Field
  | ⟨.heartbeat, .request⟩ => [customData]
  | ⟨.heartbeat, .response⟩ => [customData, ⟨"currentTime", .instant, .required⟩]
  | ⟨.unpublishFirmware, .request⟩ => [customData, ⟨"checksum", .text 32, .required⟩]
  | ⟨.unpublishFirmware, .response⟩ => [customData, status .unpublishFirmware]
  | ⟨.cancelReservation, .request⟩ => [customData, ⟨"reservationId", .integer, .required⟩]
  | ⟨.cancelReservation, .response⟩ => [customData, status .cancelReservation, statusInfo]
  | ⟨.requestStopTransaction, .request⟩ => [customData, ⟨"transactionId", .text 36, .required⟩]
  | ⟨.requestStopTransaction, .response⟩ => [customData, status .requestStartStop, statusInfo]
  | ⟨.dataTransfer, .request⟩ =>
    [customData, ⟨"messageId", .text 50, .optional⟩, data, ⟨"vendorId", .text 255, .required⟩]
  | ⟨.dataTransfer, .response⟩ => [customData, status .dataTransfer, statusInfo, data]

end MessageType

end ChargePoint
