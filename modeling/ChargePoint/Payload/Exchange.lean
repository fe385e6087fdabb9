import ChargePoint.Payload.Basic
import ChargePoint.Payload.Uuid

/-!
# Exchanges

A request is called under an id, and the response to it is returned under the same id.  Neither half
of an exchange holds a message that is not valid.

## Main definitions

* `Request`: which responses belong to a type of requests.
* `Call`, `Call.new`, `Call.fresh`: a request under an id.
* `CallResult`, `CallResult.new`, `CallResult.receive`: a response under an id.
* `Call.answer`: a response under the id of a call.
-/

namespace ChargePoint

/-- **A type of requests** and the type of the responses to them. -/
class Request (R : Type) (C : outParam Type) [Wire R] [Wire C] where
  /-- Whether a request has to be bound to a running transaction. -/
  needsTransaction : Bool

/-- **A call**: a valid request under an id. -/
structure Call (R : Type) [Wire R] where
  messageId : String
  request : R
  valid : Validated.valid request = true

/-- **A result**: a valid response under the id of the call that it answers. -/
structure CallResult (C : Type) [Wire C] where
  messageId : String
  response : C
  valid : Validated.valid response = true

namespace CallResult

variable {C : Type} [Wire C]

/-- A response under an id. -/
def new (messageId : String) (response : C) : Except PayloadFault (CallResult C) :=
  if h : Validated.valid response = true then .ok ⟨messageId, response, h⟩
  else .error (.invalid (Wire.name C))

/-- The response of a payload that came in under an id. -/
def receive (C : Type) [Wire C] (messageId : String) (payload : Json) :
    Except PayloadFault (CallResult C) := do
  new messageId (← decode C payload)

/-- The operation of a result. -/
def action (_ : CallResult C) : Action := Wire.action C

/-- The payload of a result. -/
def payload (r : CallResult C) : Except PayloadFault Json := encode r.response

end CallResult

namespace Call

variable {R : Type} [Wire R]

/-- A request under an id. -/
def new (messageId : String) (request : R) : Except PayloadFault (Call R) :=
  if h : Validated.valid request = true then .ok ⟨messageId, request, h⟩
  else .error (.invalid (Wire.name R))

/-- A request under an id of its own, given by random octets. -/
def fresh (random : List UInt8) (request : R) : Except PayloadFault (Call R) :=
  new (Uuid.ofRandom random) request

/-- The operation of a call. -/
def action (_ : Call R) : Action := Wire.action R

/-- Whether the request has to be bound to a running transaction. -/
def needsTransaction {C : Type} [Wire C] [Request R C] (_ : Call R) : Bool :=
  Request.needsTransaction R

/-- The payload of a call. -/
def payload (c : Call R) : Except PayloadFault Json := encode c.request

/-- **A response under the id of the call.** -/
def answer {C : Type} [Wire C] [Request R C] (c : Call R) (response : C) :
    Except PayloadFault (CallResult C) :=
  CallResult.new c.messageId response

end Call

end ChargePoint
