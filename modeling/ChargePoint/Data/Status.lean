import ChargePoint.Constraint.Acceptance
import ChargePoint.Data.Scalar
import ChargePoint.Fingerprint

/-!
# Statuses

A status is one of the spellings that the protocol lists for a message.  In a payload it is a
string, or an object whose only member has the spelling as its name and `null` as its value.

## Main definitions

* `Vocabulary`: a list of spellings with a name; the four vocabularies of the protocol.
* `Status`: a spelling of a vocabulary.
* `Status.parse`: the status of a spelling that was given.
* `Status.ofJson`, `Status.ofDoc`: reading.
-/

namespace ChargePoint

/-- **A vocabulary**: the spellings of a status, in the order of the protocol. -/
structure Vocabulary where
  name : String
  spellings : List String
  deriving DecidableEq

namespace Vocabulary

/-- What became of a transfer of data. -/
def dataTransfer : Vocabulary :=
  ⟨"DataTransferStatus", ["Accepted", "Rejected", "UnknownMessageId", "UnknownVendorId"]⟩

/-- What became of published firmware. -/
def unpublishFirmware : Vocabulary :=
  ⟨"UnpublishFirmwareStatus", ["DownloadOngoing", "NoFirmware", "Unpublished"]⟩

/-- What became of a reservation. -/
def cancelReservation : Vocabulary := ⟨"CancelReservationStatus", ["Accepted", "Rejected"]⟩

/-- What became of a request to start or stop. -/
def requestStartStop : Vocabulary := ⟨"RequestStartStopStatus", ["Accepted", "Rejected"]⟩

/-- The vocabularies of the protocol. -/
def all : List Vocabulary :=
  [dataTransfer, unpublishFirmware, cancelReservation, requestStartStop]

end Vocabulary

/-- **A status**: a spelling of a vocabulary. -/
def Status (v : Vocabulary) : Type := { spelling : String // spelling ∈ v.spellings }

namespace Status

variable {v : Vocabulary}

/-- The spelling of a status. -/
def spelling (s : Status v) : String := s.1

instance : DecidableEq (Status v) := inferInstanceAs (DecidableEq { s : String // s ∈ v.spellings })

instance : Diagnostic (Status v) := ⟨spelling⟩

instance : Fingerprint (Status v) := ⟨fun s => [.alternative (v.spellings.idxOf s.1)]⟩

/-- The status with a spelling, where there is one. -/
def ofSpelling? (v : Vocabulary) (spelling : String) : Option (Status v) :=
  if h : spelling ∈ v.spellings then some ⟨spelling, h⟩ else none

/-- The status with a spelling that was given for one. -/
def parse (v : Vocabulary) (spelling : String) : Except Rejection (Status v) :=
  match ofSpelling? v spelling with
  | some s => .ok s
  | none => .error (.ofValue "status" spelling .unknownSpelling)

/-- A status in a payload. -/
def write (s : Status v) : Json := .string s.spelling

/-- The status with a spelling that was read for one. -/
def variant (v : Vocabulary) (spelling : String) : Except ShapeFault (Status v) :=
  match ofSpelling? v spelling with
  | some s => .ok s
  | none => .error (.unknownSpelling spelling v.spellings)

/-- What stands beside a spelling has to be null. -/
def unit (found : Outline) : Except ShapeFault Unit :=
  if found = .null then .ok () else .error (.invalidType found .unit)

/-- **Read a status from a value.** -/
def ofJson (v : Vocabulary) : Json → Except ShapeFault (Status v)
  | .string spelling => variant v spelling
  | .object [(spelling, content)] => do
    let s ← variant v spelling
    unit content.outline
    return s
  | .object _ => .error (.invalidValue .map .singleKeyMap)
  | found => .error (.invalidType found.outline .stringOrMap)

/-- After the only member its object has to end. -/
def closed : Doc.Members → Except TextFault Unit
  | .close => .ok ()
  | .cut fault => .error fault
  | _ => .error .malformed

/-- **Read a status from a document.**  What begins neither a string nor an object is a fault of the
notation here, before it is read. -/
def ofDoc (v : Vocabulary) : Doc → Except ReadFault (Status v)
  | .string spelling => (variant v spelling).mapError ReadFault.shape
  | .object (.member spelling content rest) => do
    let s ← (variant v spelling).mapError ReadFault.shape
    content.scalar unit
    (closed rest).mapError ReadFault.text
    return s
  | .object (.stray key) => key.scalar fun found => .error (.invalidType found .variant)
  | .object (.cut fault) => .error (.text fault)
  | .broken .nothing fault => .error (.text fault)
  | .broken .quote fault => .error (.text fault)
  | _ => .error (.text .malformed)

end Status

end ChargePoint
