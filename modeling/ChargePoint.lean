import ChargePoint.Action
import ChargePoint.Constraint.Acceptance
import ChargePoint.Constraint.Rejection
import ChargePoint.Data.CustomData
import ChargePoint.Data.Scalar
import ChargePoint.Data.Status
import ChargePoint.Data.StatusInfo
import ChargePoint.Decimal.Binary64
import ChargePoint.Decimal.Layout
import ChargePoint.Decimal.Shortest
import ChargePoint.Fingerprint
import ChargePoint.Json.Basic
import ChargePoint.Json.Doc
import ChargePoint.Json.Numeral
import ChargePoint.Json.Printer
import ChargePoint.Json.Quoted
import ChargePoint.Json.Reader
import ChargePoint.Keyed
import ChargePoint.Main
import ChargePoint.Message.Basic
import ChargePoint.Message.Catalog
import ChargePoint.Message.Field
import ChargePoint.Message.Typed
import ChargePoint.Payload.Basic
import ChargePoint.Payload.Exchange
import ChargePoint.Payload.Uuid
import ChargePoint.Record
import ChargePoint.Representation
import ChargePoint.Shape.Fault
import ChargePoint.Shape.Structure
import ChargePoint.Text.Blank
import ChargePoint.Text.Diagnostic
import ChargePoint.Text.Digits
import ChargePoint.Text.Hidden
import ChargePoint.Time.Calendar
import ChargePoint.Time.Instant
import ChargePoint.Time.Reader
import ChargePoint.VendorValue
import ChargePoint.Verdict
import ChargePoint.Proofs.Outcome
import ChargePoint.Proofs.Record
import ChargePoint.Proofs.Json.Tree
import ChargePoint.Proofs.VendorValue
import ChargePoint.Proofs.Structure
import ChargePoint.Proofs.Data.CustomData
import ChargePoint.Proofs.Data.StatusInfo
import ChargePoint.Proofs.Message.Field
import ChargePoint.Proofs.Message.Reading
import ChargePoint.Proofs.Message.Grammar
import ChargePoint.Proofs.Message.Validity
import ChargePoint.Proofs.Message.Run
import ChargePoint.Proofs.Time.Calendar
import ChargePoint.Proofs.Time.Stamp
import ChargePoint.Proofs.Message.Order
import ChargePoint.Proofs.Message.RoundTrip
import ChargePoint.Proofs.Message.Cells
import ChargePoint.Proofs.Message.Misshapen
import ChargePoint.Proofs.Message.Refusal
import ChargePoint.Proofs.Message.Normal
import ChargePoint.Proofs.Json.Distinct
import ChargePoint.Shape.Text
import ChargePoint.Proofs.Document
import ChargePoint.Proofs.Message.Document
import ChargePoint.Proofs.Payload.Exchange
import ChargePoint.Proofs.Data.Wire
import ChargePoint.Proofs.Message.Form
import ChargePoint.Proofs.Json.Numeral
import ChargePoint.Proofs.Json.Reader
import ChargePoint.Proofs.Json.Depth
import ChargePoint.Proofs.Json.Printer
import ChargePoint.Proofs.Message.Depth
import ChargePoint.Proofs.Verdict
import ChargePoint.Proofs.Conversion
import ChargePoint.Proofs.Json.Equality
import ChargePoint.Proofs.Data.Equality
import ChargePoint.Proofs.Message.Equality
import ChargePoint.Proofs.Message.Outbound
import ChargePoint.Proofs.Message.Objection
import ChargePoint.Proofs.Message.Direction
import ChargePoint.Proofs.Message.Representation
import ChargePoint.Proofs.Time.Canonical
import ChargePoint.Proofs.Message.Heartbeat
import ChargePoint.Proofs.Time.Zoned
