import ChargePoint.Data.Status
import ChargePoint.Data.StatusInfo

/-!
# Fields

A field of a message has a name, a kind of content, and may or may not be left out.  The kind says
what the content is, how it is read and written, and when it is valid; whether it may be absent adds
only how absence is treated.

A content is *accepted* when it is set, as it is, or rejected, and the rest of the message is never
looked at.  A content is *valid* by a predicate of its own, which can be asked at any time.

## Main definitions

* `Kind`, `Kind.Value`, `Kind.Raw`: the kinds, what a message holds and what is read for it.
* `Field`, `Field.Content`: the fields, and what a message holds for one.
* `Field.accept`: accept a content.
* `Field.commit`: accept what was read, which may be nothing.
* `Field.valid`: whether a content is valid.
-/

namespace ChargePoint

/-- **A kind of content**: a string of bounded length, a status, an integer of 32 bits, an instant,
custom data, status information, or data whose form is the vendor's business. -/
inductive Kind where
  | text (limit : Nat)
  | status (vocabulary : Vocabulary)
  | integer
  | instant
  | customData
  | statusInfo
  | data
  deriving DecidableEq

namespace Kind

/-- What a message holds. -/
abbrev Value : Kind → Type
  | text _ => String
  | status v => Status v
  | integer => Int32
  | instant => Instant
  | customData => CustomData
  | statusInfo => StatusInfo
  | data => VendorValue

/-- What is read: an integer may still be wider than a message can hold. -/
abbrev Raw : Kind → Type
  | integer => Int
  | k => k.Value

/-- Equality of contents. -/
def beq : (k : Kind) → k.Value → k.Value → Bool
  | text _ => fun a b => a == b
  | status _ => fun a b => a == b
  | integer => fun a b => a == b
  | instant => fun a b => a == b
  | customData => fun a b => a == b
  | statusInfo => fun a b => a == b
  | data => fun a b => a == b

instance (k : Kind) : BEq k.Value := ⟨k.beq⟩

instance (k : Kind) : Fingerprint k.Value where
  items :=
    match k with
    | text _ => Fingerprint.items (α := String)
    | status v => Fingerprint.items (α := Status v)
    | integer => Fingerprint.items (α := Int32)
    | instant => fun t => [.integer t.second, .integer t.nano]
    | customData => Fingerprint.items (α := CustomData)
    | statusInfo => Fingerprint.items (α := StatusInfo)
    | data => Fingerprint.items (α := VendorValue)

instance (k : Kind) : Diagnostic k.Value where
  text :=
    match k with
    | text _ => Diagnostic.text (α := String)
    | status v => Diagnostic.text (α := Status v)
    | integer => Diagnostic.text (α := Int32)
    | instant => Diagnostic.text (α := Instant)
    | customData => Diagnostic.text (α := CustomData)
    | statusInfo => Diagnostic.text (α := StatusInfo)
    | data => Diagnostic.text (α := VendorValue)

/-- A content in a message to people. -/
def represent : (k : Kind) → k.Value → String
  | text _ => fun s => s
  | status _ => Status.spelling
  | integer => fun n => toString n.toInt
  | instant => Instant.plainText
  | customData => CustomData.represent
  | statusInfo => StatusInfo.represent
  | data => VendorValue.text

/-- A content in a payload. -/
def write : (k : Kind) → k.Value → Json
  | text _ => Json.string
  | status _ => Status.write
  | integer => fun n => .number (.whole (.ofInt32 n))
  | instant => fun t => .string t.wireText
  | customData => CustomData.write
  | statusInfo => StatusInfo.write
  | data => VendorValue.write

/-- **Whether a content is valid.** -/
def valid : (k : Kind) → k.Value → Bool
  | text limit => fits limit
  | customData => Validated.valid
  | statusInfo => Validated.valid
  | _ => fun _ => true

/-! ### Acceptance -/

/-- Accept a content. -/
def accept (label : String) : (k : Kind) → k.Value → Except Rejection k.Value
  | text limit => acceptText label limit
  | customData => ChargePoint.accept label Validated.valid fun _ => .invalidPart
  | statusInfo => ChargePoint.accept label Validated.valid fun _ => .invalidPart
  | _ => .ok

/-- Accept a content that may be absent; data that are `null` count as absent. -/
def acceptOptional (label : String) :
    (k : Kind) → Option k.Value → Except Rejection (Option k.Value)
  | text limit => ifPresent (acceptText label limit)
  | customData => acceptPart label
  | statusInfo => acceptPart label
  | data => fun d => .ok (d.filter fun d => !d.isNull)
  | _ => .ok

/-- What a message can hold of what was read. -/
def narrow (label : String) : (k : Kind) → k.Raw → Except Rejection k.Value
  | integer => acceptInteger label
  | text _ => .ok
  | status _ => .ok
  | instant => .ok
  | customData => .ok
  | statusInfo => .ok
  | data => .ok

/-! ### Reading -/

/-- Read a content from a value. -/
def ofJson : (k : Kind) → Json → Except ShapeFault k.Raw
  | text _ => fun v => v.outline.toText
  | status v => Status.ofJson v
  | integer => fun v => v.outline.toInteger
  | instant => fun v => v.outline.toInstant
  | customData => CustomData.ofJson
  | statusInfo => StatusInfo.ofJson
  | data => VendorValue.read

/-- Read a content from a document. -/
def ofDoc : (k : Kind) → Doc → Except ReadFault k.Raw
  | text _ => Doc.scalar Outline.toText
  | status v => Status.ofDoc v
  | integer => Doc.scalar Outline.toInteger
  | instant => Doc.scalar Outline.toInstant
  | customData => CustomData.ofDoc
  | statusInfo => StatusInfo.ofDoc
  | data => fun doc => do
    let tree ← doc.toTree.mapError ReadFault.text
    (VendorValue.read tree).mapError ReadFault.shape

end Kind

/-- Whether a field has to be there. -/
inductive Presence where
  | required
  | optional
  deriving DecidableEq

/-- **A field**: its name in payloads, the kind of its content, and whether it has to be there. -/
structure Field where
  label : String
  kind : Kind
  presence : Presence
  deriving DecidableEq

namespace Field

/-- What a message holds for a field: a content, or possibly none. -/
abbrev Content : Field → Type
  | ⟨_, kind, .required⟩ => kind.Value
  | ⟨_, kind, .optional⟩ => Option kind.Value

/-- What a message holds for a field, if it holds anything. -/
def value? : (f : Field) → f.Content → Option f.kind.Value
  | ⟨_, _, .required⟩ => some
  | ⟨_, _, .optional⟩ => id

/-- **Accept a content**, or reject it. -/
def accept : (f : Field) → f.Content → Except Rejection f.Content
  | ⟨label, kind, .required⟩ => kind.accept label
  | ⟨label, kind, .optional⟩ => kind.acceptOptional label

/-- **Accept what was read** for a field, or reject it; nothing may have been read. -/
def commit : (f : Field) → Option f.kind.Raw → Except Rejection f.Content
  | ⟨label, kind, .required⟩ => fun raw => do
    kind.accept label (← kind.narrow label (← demand label raw))
  | ⟨label, kind, .optional⟩ => fun raw =>
    match raw with
    | none => kind.acceptOptional label none
    | some raw => do kind.acceptOptional label (some (← kind.narrow label raw))

/-- **Whether a content is valid**: absent, or valid in itself. -/
def valid (f : Field) (content : f.Content) : Bool :=
  match f.value? content with
  | none => true
  | some value => f.kind.valid value

/-- Equality of contents. -/
def beq (f : Field) (a b : f.Content) : Bool := f.value? a == f.value? b

/-- What a content gives to a hash. -/
def fingerprint : (f : Field) → f.Content → List Fingerprint.Item
  | ⟨_, _, .required⟩ => fun value => Fingerprint.items value
  | ⟨_, _, .optional⟩ => fun value => Fingerprint.items value

/-- The name of a field in diagnostic text: words apart. -/
def diagnosticLabel (f : Field) : String :=
  f.label.foldl (fun text c => if c.isUpper then (text.push '_').push c.toLower else text.push c) ""

/-- A content as it is shown to someone looking for a fault. -/
def diagnostic : (f : Field) → f.Content → String
  | ⟨_, _, .required⟩ => fun value => Diagnostic.text value
  | ⟨_, _, .optional⟩ => fun value => Diagnostic.text value

/-- A content in a message to people; what is absent shows as `null`. -/
def represent (f : Field) (content : f.Content) : Option String :=
  (f.value? content).map f.kind.represent

/-- The member of a payload that a content gives, if it is there. -/
def write (f : Field) (content : f.Content) : Option (String × Json) :=
  (f.value? content).map fun value => (f.label, f.kind.write value)

end Field

end ChargePoint
