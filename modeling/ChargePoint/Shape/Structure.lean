import ChargePoint.Record
import ChargePoint.Shape.Fault

/-!
# Reading structures

A structure has named fields in an order.  It is read from an object, whose members give the fields
by name in any order, or from an array, whose items give all of them in order.  Each field has a
reader of its own; a member that is no field, or a field given twice, is a fault.

Values are read in the order in which they are met, and reading stops at the first fault.

## Main definitions

* `Structure`: a name, and fields with their names and the types read for them.
* `Structure.Draft`: what has been read, field by field.
* `Structure.ofJson`: reading a value.
* `Structure.ofDoc`: reading a document, in the order of its text.
-/

namespace ChargePoint

/-- **A structure to be read**: its name in messages, its fields in order, and for each the name in
an object and the type of what is read. -/
structure Structure (ι : Type) where
  name : String
  fields : List ι
  label : ι → String
  Value : ι → Type

namespace Structure

variable {ι : Type}

/-- What has been read of a structure: for each field, what it was given. -/
abbrev Draft (s : Structure ι) : Type := Record (fun i => Option (s.Value i)) s.fields

/-- The names of the fields, in order. -/
def labels (s : Structure ι) : List String := s.fields.map s.label

/-- Nothing read yet. -/
def blank (s : Structure ι) : s.Draft := Record.pure (fun _ => none) s.fields

/-- The field that a member gives, unless it is none or has been given. -/
def place (s : Structure ι) (draft : s.Draft) (name : String) :
    Except ShapeFault ((i : ι) × Slot s.fields i) :=
  match Slot.find? (fun i => s.label i == name) s.fields with
  | none => .error (.unknownField name s.labels)
  | some ⟨i, slot⟩ =>
    match draft.get slot with
    | none => .ok ⟨i, slot⟩
    | some _ => .error (.duplicateField name)

/-! ### From a value -/

/-- Read the members of an object, one after another. -/
def ofMembers (s : Structure ι) (read : (i : ι) → Json → Except ShapeFault (s.Value i)) :
    List (String × Json) → s.Draft → Except ShapeFault s.Draft
  | [], draft => .ok draft
  | (name, value) :: rest, draft => do
    let ⟨i, slot⟩ ← s.place draft name
    ofMembers s read rest (draft.set slot (some (← read i value)))

/-- Read the items of an array, one for each field. -/
def ofItems (s : Structure ι) (read : (i : ι) → Json → Except ShapeFault (s.Value i))
    (all : List Json) : (fields : List ι) → List Json →
      Except ShapeFault (Record (fun i => Option (s.Value i)) fields)
  | [], [] => .ok .nil
  | [], _ :: _ => .error (.invalidLength all.length .fewerElements)
  | _ :: _, [] => .error (.invalidLength all.length (.elements s.name s.fields.length))
  | i :: fields, item :: rest => do
    return .cons (some (← read i item)) (← ofItems s read all fields rest)

/-- **Read a structure from a value.** -/
def ofJson (s : Structure ι) (read : (i : ι) → Json → Except ShapeFault (s.Value i)) :
    Json → Except ShapeFault s.Draft
  | .object members => ofMembers s read members s.blank
  | .array items => ofItems s read items s.fields items
  | v => .error (.invalidType v.outline (.structure s.name))

/-! ### From a document -/

/-- Read the members of an object of a document, in the order of the text. -/
def ofDocMembers (s : Structure ι) (read : (i : ι) → Doc → Except ReadFault (s.Value i)) :
    Doc.Members → s.Draft → Except ReadFault s.Draft
  | .close, draft => .ok draft
  | .cut fault, _ => .error (.text fault)
  | .stray key, _ => .error (.text key.keyFault)
  | .member name value rest, draft => do
    let ⟨i, slot⟩ ← (s.place draft name).mapError ReadFault.shape
    ofDocMembers s read rest (draft.set slot (some (← read i value)))

/-- Read the items of an array of a document, `count` of which have been read. -/
def ofDocItems (s : Structure ι) (read : (i : ι) → Doc → Except ReadFault (s.Value i))
    (count : Nat) : (fields : List ι) → Doc.Items →
      Except ReadFault (Record (fun i => Option (s.Value i)) fields)
  | [], .close => .ok .nil
  | [], .item _ _ => .error (.text .malformed)
  | _ :: _, .close => .error (.shape (.invalidLength count (.elements s.name s.fields.length)))
  | _, .cut fault => .error (.text fault)
  | i :: fields, .item item rest => do
    return .cons (some (← read i item)) (← ofDocItems s read (count + 1) fields rest)

/-- **Read a structure from a document.** -/
def ofDoc (s : Structure ι) (read : (i : ι) → Doc → Except ReadFault (s.Value i)) :
    Doc → Except ReadFault s.Draft
  | .object members => ofDocMembers s read members s.blank
  | .array items => ofDocItems s read 0 s.fields items
  | doc => do
    let found ← doc.outline.mapError ReadFault.text
    .error (.shape (.invalidType found (.structure s.name)))

end Structure

end ChargePoint
