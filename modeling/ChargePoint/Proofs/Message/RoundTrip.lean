import ChargePoint.Proofs.Message.Order
import ChargePoint.Proofs.Time.Stamp

/-!
# Messages and their payloads

Writing a message and reading it are described apart: one lists the fields that are there, the other
takes the members of an object to the fields they name.  They agree on every message that a run can
arrive at, because such a message is as the checks leave it and has its names in order; so its
payload is decoded to the message itself, and to no other type.

## Main definitions

* `Message.written`: the members that contents write.

## Main results

* `Message.lookup_written`: what is written under the name of a field.
* `Message.readFrom_canonical_write`: a message is read from its own payload.
* `decode_payload_of_mem_run`: the payload of a message of a run is decoded to that message.
-/

namespace ChargePoint

/-! ### Contents -/

namespace Kind

/-- **A valid content is read from what it writes**, once its names are in order. -/
theorem readFrom_canonical_write {k : Kind} {x : k.Value} (ordered : k.Ordered x)
    (valid : k.valid x = true) : k.ReadFrom (k.write x).canonical x := by
  cases k with
  | text limit => exact rfl
  | status v => exact .inl rfl
  | integer => exact ⟨.ofInt32 x, rfl, rfl⟩
  | instant => exact ⟨_, rfl, Instant.read_wireText x⟩
  | customData =>
    have apart := (CustomData.valid_iff.1 valid).2
    exact CustomData.readFrom_canonical_write ordered apart
  | statusInfo =>
    have inner := (StatusInfo.valid_iff.1 valid).1
    exact StatusInfo.readFrom_canonical_write ordered fun c there =>
      (CustomData.valid_iff.1 (inner c there)).2
  | data => exact (VendorValue.ofJson_canonical_write ordered).symm

theorem isNull_canonical_write {k : Kind} (x : k.Value) :
    (k.write x).canonical.isNull = k.isNull x := by
  cases k with
  | data => exact (Json.isNull_canonical _).trans (VendorValue.isNull_write x)
  | _ => rfl

instance (k : Kind) : ReflBEq k.Value where
  rfl {x} := by
    cases k with
    | text limit => exact beq_self_eq_true (α := String) x
    | status v => exact beq_self_eq_true (α := Status v) x
    | integer => exact beq_self_eq_true (α := Int32) x
    | instant => exact beq_self_eq_true (α := Instant) x
    | customData => exact beq_self_eq_true (α := CustomData) x
    | statusInfo => exact beq_self_eq_true (α := StatusInfo) x
    | data => exact beq_self_eq_true (α := VendorValue) x

end Kind

namespace Message

/-! ### Members -/

/-- The members that contents write, in the order of their fields. -/
def written {fields : List Field} (contents : Record Field.Content fields) :
    List (String × Json) :=
  (contents.toList Field.write).filterMap id

theorem written_cons {f : Field} {fields : List Field} (head : f.Content)
    (tail : Record Field.Content fields) :
    written (.cons head tail) = (f.write head).toList ++ written tail := by
  rw [written, Record.toList]
  cases f.write head with
  | none => rfl
  | some entry => rfl

/-- Only fields are written, each at most once. -/
theorem names_written_sublist {fields : List Field} (contents : Record Field.Content fields) :
    ((written contents).map Prod.fst).Sublist (fields.map Field.label) := by
  induction contents with
  | nil => exact .slnil
  | @cons f fields head tail ih =>
    rw [written_cons, List.map_append, List.map_cons, Field.write]
    cases f.value? head with
    | none => exact ih.cons _
    | some value => exact ih.cons_cons _

/-- **What is written under the name of a field** is its content, if it is there. -/
theorem lookup_written {fields : List Field} (distinct : (fields.map Field.label).Nodup)
    (contents : Record Field.Content fields) {f : Field} (slot : Slot fields f) :
    (written contents).lookup f.label = (f.value? (contents.get slot)).map f.kind.write := by
  induction contents with
  | nil => exact nomatch slot
  | @cons g fields head tail ih =>
    obtain ⟨absent, distinct⟩ := List.nodup_cons.1 distinct
    rw [written_cons, Field.write]
    cases slot with
    | first =>
      have later : (written tail).lookup f.label = none :=
        Keyed.lookup_eq_none_iff_notMem.2 fun member =>
          absent ((names_written_sublist tail).subset member)
      rw [Record.get]
      cases f.value? head with
      | none => exact later
      | some value => exact (Keyed.lookup_cons ..).trans (if_pos rfl)
    | next slot =>
      have other : f.label ≠ g.label := by
        intro same
        exact absent (same ▸ List.mem_map_of_mem slot.mem)
      rw [Record.get, ← ih distinct slot]
      cases g.value? head with
      | none => rfl
      | some value => exact (Keyed.lookup_cons ..).trans (if_neg other)

/-! ### Messages -/

variable {t : MessageType}

/-- **A message is read from its own payload.** -/
theorem readFrom_canonical_write {m : Message t} (sound : m.Sound) (ordered : m.Ordered) :
    m.ReadFrom m.write.canonical := by
  have distinct := t.labels_nodup
  have names := names_written_sublist m.contents
  refine ⟨Structure.fits_canonical_object names.subset, fun f slot => ?_⟩
  have given : t.form.given m.write.canonical slot =
      ((f.value? (m.get slot)).map f.kind.write).map Json.canonical :=
    (Structure.given_canonical_object (names.nodup distinct) slot).trans
      (congrArg (Option.map Json.canonical) (lookup_written distinct m.contents slot))
  have part : t.form.part m.write.canonical slot =
      (((f.value? (m.get slot)).map f.kind.write).map Json.canonical).filter fun w => !w.isNull :=
    congrArg (Option.filter _) given
  rw [part]
  cases there : f.value? (m.get slot) with
  | none => exact .none
  | some value =>
    -- `null` data would be read as absent, but a check leaves none
    have present : f.kind.isNull value = false := sound.isNull_eq_false there
    have valid : f.kind.valid value = true := sound.kind_valid there
    rw [Option.map_some, Option.map_some, Option.filter_some_pos]
    · exact .some (Kind.readFrom_canonical_write (ordered f slot value there) valid)
    · rw [Kind.isNull_canonical_write, present]
      rfl

/-- **Decoding undoes encoding.** -/
theorem decode_canonical_write {m : Message t} (sound : m.Sound) (ordered : m.Ordered) :
    decode (Message t) m.write.canonical = .ok m :=
  (decode_iff (Json.canonical_canonical _)).2
    ⟨readFrom_canonical_write sound ordered, sound.valid⟩

instance : ReflBEq (Message t) where
  rfl {m} := by
    show m.contents.beq Field.beq m.contents = true
    refine Record.beq_self (fun f content => ?_) m.contents
    exact beq_self_eq_true (f.value? content)

end Message

instance : ReflBEq TypedMessage where
  rfl {m} := by
    show TypedMessage.beq m m = true
    rw [TypedMessage.beq, dif_pos rfl]
    exact beq_self_eq_true m.message

/-- **The payload of a message of a run is decoded to that message**: the operation and the half it
belongs to select its type, and every content of it comes back.  What is given to the run keeps its
names in order, as everything that is kept by name does. -/
theorem decode_payload_of_mem_run {operations : List Operation}
    (ordered : ∀ operation ∈ operations, operation.Ordered) {m : TypedMessage}
    (h : m ∈ run operations) :
    ∃ p, m.payload = .ok p ∧ p.Canonical ∧
      TypedMessage.decode m.action m.direction p = .ok m ∧ (m == m) = true := by
  have sound := sound_of_mem_run h
  have back := Message.decode_canonical_write sound (ordered_of_mem_run ordered h)
  refine ⟨_, encode_eq_ok sound.valid, Json.canonical_canonical _, ?_, beq_self_eq_true m⟩
  rw [TypedMessage.decode, bind_eq_ok_iff]
  exact ⟨m.message, back, rfl⟩

/-- Nested data that were set after the message had been built come back. -/
theorem decode_payload_nested :
    let data : VendorValue :=
      .object [("list", .array [.number (.whole ⟨-1, by decide⟩), .null]), ("name", .string "")]
    let operations : List Operation :=
      [.build (.new ⟨.dataTransfer, .request⟩ (.cons "acme" .nil)),
        .change 0 ⟨⟨.dataTransfer, .request⟩, _, .next (.next .first), some data⟩]
    let m : TypedMessage :=
      ⟨⟨.dataTransfer, .request⟩, ⟨.cons none (.cons none (.cons (some data) (.cons "acme" .nil)))⟩⟩
    (∀ operation ∈ operations, operation.Ordered) ∧ m ∈ run operations ∧
      ∃ p, m.payload = .ok p ∧ p.Canonical ∧
        TypedMessage.decode m.action m.direction p = .ok m ∧ (m == m) = true := by
  intro data operations m
  have inOrder : data.Ordered := by
    refine VendorValue.ordered_object_iff.2 ⟨?_, ?_⟩
    · rw [Keyed.Ascending]
      decide
    · simp [VendorValue.Ordered, VendorValue.OrderedItems]
  have ordered : ∀ operation ∈ operations, operation.Ordered := by
    intro operation member
    rcases List.mem_cons.1 member with rfl | member
    · refine Slot.forall_cons_iff.2 ⟨trivial, ?_⟩
      intro f slot
      cases slot
    · obtain rfl := List.mem_singleton.1 member
      intro value there
      cases there
      exact inOrder
  have member : m ∈ run operations := by
    have all : run operations = [m] := rfl
    rw [all]
    exact List.mem_singleton_self m
  exact ⟨ordered, member, decode_payload_of_mem_run ordered member⟩

end ChargePoint
