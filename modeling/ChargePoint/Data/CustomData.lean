import ChargePoint.Constraint.Acceptance
import ChargePoint.Data.Scalar
import ChargePoint.Representation
import ChargePoint.VendorValue

/-!
# Custom data

The extension object that nearly every message can carry: the vendor it belongs to, and properties
of the vendor's own.  In a payload the properties stand beside the vendor id, in one object; a
property of the same name as the vendor id therefore makes it invalid.

## Main definitions

* `CustomData`: the object.
* `CustomData.new`, `insert`, `erase`: building one.
* `CustomData.write`, `CustomData.ofJson`, `CustomData.ofDoc`: writing and reading.
-/

namespace ChargePoint

/-- **Custom data**: a vendor id, and properties kept by name. -/
structure CustomData where
  vendorId : String
  properties : List (String × VendorValue)

namespace CustomData

/-- The longest vendor id. -/
def vendorIdLimit : Nat := 255

/-- The name of the vendor id in a payload. -/
def vendorIdLabel : String := "vendorId"

/-- Custom data without properties. -/
def new (vendorId : String) : Except Rejection CustomData := do
  return ⟨← acceptText vendorIdLabel vendorIdLimit vendorId, []⟩

/-- Custom data with a property more, or another value of one. -/
def insert (c : CustomData) (name : String) (value : VendorValue) : CustomData :=
  { c with properties := Keyed.insert name value c.properties }

/-- Custom data without a property. -/
def erase (c : CustomData) (name : String) : CustomData :=
  { c with properties := Keyed.erase name c.properties }

/-- The value of a property. -/
def get? (c : CustomData) (name : String) : Option VendorValue := c.properties.lookup name

instance : Validated CustomData where
  valid c := fits vendorIdLimit c.vendorId && (c.get? vendorIdLabel).isNone

/-- The names of properties ascend, at every level. -/
def Ordered (c : CustomData) : Prop := (VendorValue.object c.properties).Ordered

protected instance : BEq CustomData where
  beq c d := c.vendorId == d.vendorId && VendorValue.object c.properties == .object d.properties

instance : Fingerprint CustomData where
  items c := .text c.vendorId :: .length c.properties.length ::
    VendorValue.fingerprintMembers c.properties

instance : Diagnostic CustomData where
  text c := Diagnostic.record "CustomData"
    [("vendor_id", Diagnostic.quote c.vendorId),
      ("properties", Diagnostic.map (VendorValue.diagnosticMembers c.properties))]

/-- Custom data in a message to people. -/
def represent (c : CustomData) : String :=
  (((Representation.start "CustomData").add vendorIdLabel c.vendorId).add "properties"
    (VendorValue.object c.properties).text).judged (Validated.valid c)

/-! ### Writing and reading -/

/-- The object of custom data: the vendor id, then the properties. -/
def write (c : CustomData) : Json :=
  .object ((vendorIdLabel, .string c.vendorId) :: VendorValue.writeMembers c.properties)

/-- What has been read of custom data: perhaps the vendor id, and properties. -/
abbrev Draft : Type := Option String × List (String × VendorValue)

/-- Custom data, once all of it has been read. -/
def ofDraft : Draft → Except ShapeFault CustomData
  | (none, _) => .error (.missingField vendorIdLabel)
  | (some vendorId, properties) => .ok ⟨vendorId, properties⟩

/-- Read the members of an object, one after another. -/
def ofMembers : List (String × Json) → Draft → Except ShapeFault Draft
  | [], draft => .ok draft
  | (name, value) :: rest, (vendorId, properties) =>
    if name = vendorIdLabel then
      match vendorId with
      | some _ => .error (.duplicateField vendorIdLabel)
      | none => do ofMembers rest (some (← value.outline.toText), properties)
    else do ofMembers rest (vendorId, Keyed.insert name (← VendorValue.read value) properties)

/-- **Read custom data from a value.** -/
def ofJson : Json → Except ShapeFault CustomData
  | .object members => do ofDraft (← ofMembers members (none, []))
  | v => .error (.invalidType v.outline (.structure "CustomData"))

/-- Read the members of an object of a document, in the order of the text. -/
def ofDocMembers : Doc.Members → Draft → Except ReadFault Draft
  | .close, draft => .ok draft
  | .cut fault, _ => .error (.text fault)
  | .stray key, _ => .error (.text key.keyFault)
  | .member name value rest, (vendorId, properties) =>
    if name = vendorIdLabel then
      match vendorId with
      | some _ => .error (.shape (.duplicateField vendorIdLabel))
      | none => do ofDocMembers rest (some (← value.scalar Outline.toText), properties)
    else do
      let tree ← value.toTree.mapError ReadFault.text
      let property ← (VendorValue.read tree).mapError ReadFault.shape
      ofDocMembers rest (vendorId, Keyed.insert name property properties)

/-- **Read custom data from a document.** -/
def ofDoc : Doc → Except ReadFault CustomData
  | .object members => do
    (ofDraft (← ofDocMembers members (none, []))).mapError ReadFault.shape
  | doc => do
    let found ← doc.outline.mapError ReadFault.text
    .error (.shape (.invalidType found (.structure "CustomData")))

end CustomData

end ChargePoint
