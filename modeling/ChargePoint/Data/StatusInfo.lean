import ChargePoint.Data.CustomData
import ChargePoint.Shape.Structure

/-!
# Status information

The element that says more about the status in a response: a reason code, perhaps further text, and
perhaps custom data.

## Main definitions

* `StatusInfo`: the element.
* `StatusInfo.new`, `setAdditionalInfo`, `setCustomData`: building one.
* `StatusInfo.write`, `StatusInfo.ofJson`, `StatusInfo.ofDoc`: writing and reading.
-/

namespace ChargePoint

/-- **Status information.** -/
structure StatusInfo where
  customData : Option CustomData
  reasonCode : String
  additionalInfo : Option String
  deriving BEq

namespace StatusInfo

/-- The longest reason code. -/
def reasonCodeLimit : Nat := 20

/-- The longest further text. -/
def additionalInfoLimit : Nat := 512

/-- Status information with a reason code alone. -/
def new (reasonCode : String) : Except Rejection StatusInfo := do
  return ⟨none, ← acceptText "reasonCode" reasonCodeLimit reasonCode, none⟩

/-- Status information with other further text. -/
def setAdditionalInfo (i : StatusInfo) (additionalInfo : Option String) :
    Except Rejection StatusInfo := do
  let additionalInfo ← ifPresent (acceptText "additionalInfo" additionalInfoLimit) additionalInfo
  return { i with additionalInfo }

/-- Status information with other custom data. -/
def setCustomData (i : StatusInfo) (customData : Option CustomData) :
    Except Rejection StatusInfo := do
  return { i with customData := ← acceptPart "customData" customData }

instance : Validated StatusInfo where
  valid i := i.customData.all Validated.valid && fits reasonCodeLimit i.reasonCode &&
    i.additionalInfo.all (fits additionalInfoLimit)

/-- The names of properties ascend in the custom data. -/
def Ordered (i : StatusInfo) : Prop := ∀ c ∈ i.customData, c.Ordered

instance : Fingerprint StatusInfo where
  items i := Fingerprint.items i.customData ++ Fingerprint.items i.reasonCode ++
    Fingerprint.items i.additionalInfo

instance : Diagnostic StatusInfo where
  text i := Diagnostic.record "StatusInfo"
    [("custom_data", Diagnostic.text i.customData), ("reason_code", Diagnostic.text i.reasonCode),
      ("additional_info", Diagnostic.text i.additionalInfo)]

/-- Status information in a message to people. -/
def represent (i : StatusInfo) : String :=
  ((((Representation.start "StatusInfo").addOptional "customData"
    (i.customData.map CustomData.represent)).add "reasonCode" i.reasonCode).addOptional
    "additionalInfo" i.additionalInfo).judged (Validated.valid i)

/-! ### Writing and reading -/

/-- The object of status information; what is absent is left out. -/
def write (i : StatusInfo) : Json :=
  .object ((i.customData.map fun c => ("customData", c.write)).toList ++
    ("reasonCode", .string i.reasonCode) ::
    (i.additionalInfo.map fun text => ("additionalInfo", .string text)).toList)

/-- The parts of status information. -/
inductive Part where
  | customData
  | reasonCode
  | additionalInfo
  deriving DecidableEq

/-- The name of a part in a payload. -/
def Part.label : Part → String
  | customData => "customData"
  | reasonCode => "reasonCode"
  | additionalInfo => "additionalInfo"

/-- What is read for a part. -/
def Part.Value : Part → Type
  | customData => Option CustomData
  | reasonCode => String
  | additionalInfo => Option String

/-- Status information as a structure to be read. -/
def form : Structure Part where
  name := "StatusInfo"
  fields := [.customData, .reasonCode, .additionalInfo]
  label := Part.label
  Value := Part.Value

/-- Read a part from a value. -/
def Part.ofJson : (part : Part) → Json → Except ShapeFault part.Value
  | customData => Json.orNull CustomData.ofJson
  | reasonCode => fun v => v.outline.toText
  | additionalInfo => Json.orNull fun v => v.outline.toText

/-- Read a part from a document. -/
def Part.ofDoc : (part : Part) → Doc → Except ReadFault part.Value
  | customData => Doc.orNull CustomData.ofDoc
  | reasonCode => Doc.scalar Outline.toText
  | additionalInfo => Doc.orNull (Doc.scalar Outline.toText)

/-- Status information, once all of it has been read; only the reason code has to be there. -/
def ofDraft : form.Draft → Except ShapeFault StatusInfo
  | .cons customData (.cons reasonCode (.cons additionalInfo .nil)) =>
    match reasonCode with
    | none => .error (.missingField Part.reasonCode.label)
    | some reasonCode => .ok ⟨customData.join, reasonCode, additionalInfo.join⟩

/-- **Read status information from a value.** -/
def ofJson (v : Json) : Except ShapeFault StatusInfo := do
  ofDraft (← form.ofJson Part.ofJson v)

/-- **Read status information from a document.** -/
def ofDoc (doc : Doc) : Except ReadFault StatusInfo := do
  (ofDraft (← form.ofDoc Part.ofDoc doc)).mapError ReadFault.shape

end StatusInfo

end ChargePoint
