import ChargePoint.Message.Catalog

/-!
# Messages

A message holds a content for each field of its type.  It is made from its required contents, and
changed one field at a time; every content is accepted before it goes in.  A message can be judged
as a whole at any time, whatever its contents and however they came there.

## Main definitions

* `Message`: the messages of a type.
* `Message.new`: a message from its required contents.
* `Message.heartbeatAt`: the response that tells the time.
* `Message.get`: one field.
* `Message.assign`, `Message.put`: a field changed in place, and what is left in either outcome.
* `Message.set`: the message with another content of a field.
* `Message.ofDraft`: a message from what was read for its fields.
* `Message.represent`, `Message.diagnostic`: a message in messages to people.
-/

namespace ChargePoint

/-- **A message** of a type: a content for each field. -/
structure Message (t : MessageType) where
  contents : Record Field.Content t.fields

/-- The fields that have to be there. -/
def requiredFields : List Field → List Field
  | [] => []
  | ⟨label, kind, .required⟩ :: fields => ⟨label, kind, .required⟩ :: requiredFields fields
  | ⟨_, _, .optional⟩ :: fields => requiredFields fields

/-- Contents of all fields from those of the required ones, each accepted; nothing for the others.
-/
def requiredContents : (fields : List Field) →
    Record (fun f => f.kind.Value) (requiredFields fields) →
      Except Rejection (Record Field.Content fields)
  | [], _ => .ok .nil
  | ⟨label, kind, .required⟩ :: fields, .cons value rest => do
    return .cons (← kind.accept label value) (← requiredContents fields rest)
  | ⟨_, _, .optional⟩ :: fields, rest => do
    return .cons none (← requiredContents fields rest)

namespace Message

variable {t : MessageType}

/-- **A message from its required contents.** -/
def new (t : MessageType) (contents : Record (fun f => f.kind.Value) (requiredFields t.fields)) :
    Except Rejection (Message t) := do
  return ⟨← requiredContents t.fields contents⟩

/-- The response to a heartbeat that is answered at an instant. -/
def heartbeatAt (instant : Instant) : Message ⟨.heartbeat, .response⟩ :=
  ⟨.cons none (.cons instant .nil)⟩

/-- The content of a field. -/
def get {f : Field} (m : Message t) (slot : Slot t.fields f) : f.Content := m.contents.get slot

/-- **Change a field in place**: the content is checked, and put into the field once it has been
accepted. -/
def assign {f : Field} (slot : Slot t.fields f) (content : f.Content) :
    ExceptT Rejection (StateM (Message t)) Unit := do
  let accepted ← MonadExcept.ofExcept (f.accept content)
  modify fun m => ⟨m.contents.set slot accepted⟩

/-- The outcome of a change in place, and the message that it leaves. -/
def put {f : Field} (m : Message t) (slot : Slot t.fields f) (content : f.Content) :
    Except Rejection Unit × Message t :=
  (assign slot content).run.run m

/-- **The message with another content of a field**: it is given away, changed in place, and comes
back unless the content was rejected. -/
def set {f : Field} (m : Message t) (slot : Slot t.fields f) (content : f.Content) :
    Except Rejection (Message t) :=
  let (outcome, after) := m.put slot content
  outcome.map fun _ => after

/-- An accepted content is what the field holds afterwards, and a rejected one leaves the message as
it was. -/
theorem put_eq {f : Field} (m : Message t) (slot : Slot t.fields f) (content : f.Content) :
    m.put slot content =
      match f.accept content with
      | .ok accepted => (.ok (), ⟨m.contents.set slot accepted⟩)
      | .error r => (.error r, m) := by
  unfold put assign
  cases f.accept content <;> rfl

theorem set_eq {f : Field} (m : Message t) (slot : Slot t.fields f) (content : f.Content) :
    m.set slot content = (f.accept content).map fun accepted => ⟨m.contents.set slot accepted⟩ := by
  rw [set, put_eq]
  cases f.accept content <;> rfl

instance : Validated (Message t) := ⟨fun m => m.contents.all Field.valid⟩

protected instance : BEq (Message t) := ⟨fun m n => m.contents.beq Field.beq n.contents⟩

instance : Fingerprint (Message t) where
  items m := (m.contents.toList Field.fingerprint).flatten

instance : Diagnostic (Message t) where
  text m := Diagnostic.record t.name
    (m.contents.toList fun f content => (f.diagnosticLabel, f.diagnostic content))

/-- A message in a message to people. -/
def represent (m : Message t) : String :=
  let fields := m.contents.toList fun f content => (f.label, f.represent content)
  (fields.foldl (fun r field => r.addOptional field.1 field.2) (Representation.start t.name)).judged
    (Validated.valid m)

/-! ### Writing -/

/-- **The object of a message**: the fields that are there, in the order in which they are
declared. -/
def write (m : Message t) : Json :=
  .object ((m.contents.toList Field.write).filterMap id)

/-! ### What was read -/

/-- What was read for the fields of a message, before any check. -/
abbrev Draft (t : MessageType) : Type := Record (fun f => Option f.kind.Raw) t.fields

/-- Whether the required contents can be committed. -/
def commitRequired (f : Field) (raw : Option f.kind.Raw) : Except Rejection Unit :=
  match f.presence with
  | .required => (f.commit raw).map fun _ => ()
  | .optional => .ok ()

/-- **A message from what was read**: first the required fields are committed, then the others, in
the order in which they are declared; the first rejection ends it. -/
def ofDraft (draft : Draft t) : Except Rejection (Message t) := do
  let _ ← draft.mapM (β := fun _ => Unit) commitRequired
  return ⟨← draft.mapM Field.commit⟩

end Message

namespace MessageType

/-- A type of messages as a structure to be read: every field may be `null`. -/
def form (t : MessageType) : Structure Field where
  name := t.name ++ "Fields"
  fields := t.fields
  label := Field.label
  Value f := Option f.kind.Raw

end MessageType

namespace Message

variable {t : MessageType}

/-- Read the contents of a message from a value. -/
def readDraft (t : MessageType) (v : Json) : Except ShapeFault (Draft t) := do
  let read ← t.form.ofJson (fun f => Json.orNull f.kind.ofJson) v
  return read.map fun _ content => content.join

/-- **Read a message from a value**, its constraints included. -/
def ofJson (t : MessageType) (v : Json) : Except ShapeFault (Message t) := do
  (ofDraft (← readDraft t v)).mapError ShapeFault.rejected

/-- **Read a message from a document**, its constraints included. -/
def ofDoc (t : MessageType) (doc : Doc) : Except ReadFault (Message t) := do
  let read ← t.form.ofDoc (fun f => Doc.orNull f.kind.ofDoc) doc
  (ofDraft (read.map fun _ content => content.join)).mapError
    (ReadFault.shape ∘ ShapeFault.rejected)

end Message

end ChargePoint
