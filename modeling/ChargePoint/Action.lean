/-!
# Actions

The operations of the protocol.  Each has two halves: a request, and the response to it.

## Main definitions

* `Action`: the operations.
* `Action.needsTransaction`: whether a request belongs to a transaction.
* `Direction`: the halves.
-/

namespace ChargePoint

/-- **The operations of the protocol.** -/
inductive Action where
  | heartbeat
  | unpublishFirmware
  | cancelReservation
  | requestStopTransaction
  | dataTransfer
  deriving DecidableEq, Repr

namespace Action

/-- All operations, in the order of the catalog. -/
def all : List Action :=
  [heartbeat, unpublishFirmware, cancelReservation, requestStopTransaction, dataTransfer]

/-- The name of an operation. -/
def name : Action → String
  | heartbeat => "Heartbeat"
  | unpublishFirmware => "UnpublishFirmware"
  | cancelReservation => "CancelReservation"
  | requestStopTransaction => "RequestStopTransaction"
  | dataTransfer => "DataTransfer"

/-- The operation with a name. -/
def ofName? (name : String) : Option Action := all.find? fun action => action.name == name

/-- Whether a request of the operation has to be bound to a running transaction. -/
def needsTransaction : Action → Bool
  | requestStopTransaction => true
  | _ => false

end Action

/-- **The halves of an operation.** -/
inductive Direction where
  | request
  | response
  deriving DecidableEq, Repr

namespace Direction

/-- The name of a half. -/
def name : Direction → String
  | request => "request"
  | response => "response"

/-- The half with a name. -/
def ofName? : String → Option Direction
  | "request" => some request
  | "response" => some response
  | _ => none

end Direction

end ChargePoint
