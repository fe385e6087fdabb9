import ChargePoint.Proofs.Message.RoundTrip

/-!
# The normal form of payloads

What becomes of a payload that is decoded and encoded again.  A message does not remember which of
its absent parts were written as `null`, nor how its time was written; everything else that an
object says it holds, down to the innermost value, and writes again as it was.  So decoding and
encoding replace a payload by its normal form, which is described here on JSON values alone; and to
do so again changes nothing, in whatever form the payload first came.

## Main definitions

* `Json.withoutNulls`, `Json.withCanonicalTime`: an object without the members that are `null`, and
  a time in its canonical writing.
* `Json.normal`: the normal form of a payload.

## Main results

* `Kind.canonical_write_of_readFrom`: a content is written as the normal form of what it was read
  from.
* `Message.canonical_write_of_readFrom`: so is a message.
* `payload_of_decode`: encoding what was decoded gives the normal form, and is final.
-/

namespace ChargePoint

/-! ### Normal forms -/

namespace Json

/-- An object without the members that are `null`; those inside its members stay. -/
def withoutNulls : Json → Json
  | object members => object (members.filter fun entry => !entry.2.isNull)
  | v => v

/-- A text that writes an instant, replaced by the canonical writing of that instant. -/
def withCanonicalTime : Json → Json
  | string text =>
    match Instant.read text with
    | .ok t => string t.wireText
    | .error _ => string text
  | v => v

/-- The normal form of what stands under a name in a payload: only status information and a time may
change. -/
def normalPart (name : String) (w : Json) : Json :=
  if name = "statusInfo" then w.withoutNulls
  else if name = "currentTime" then w.withCanonicalTime
  else w

/-- **The normal form of a payload**: no members that are `null`, neither of the object itself nor
of its status information, and the time in its canonical writing. -/
def normal (v : Json) : Json :=
  match v.withoutNulls with
  | object members => object (members.map fun entry => (entry.1, normalPart entry.1 entry.2))
  | w => w

end Json

/-! ### Contents -/

/-- **Custom data are written as what they were read from.** -/
theorem CustomData.canonical_write_of_readFrom {w : Json} {c : CustomData}
    (canonical : w.Canonical) (read : c.ReadFrom w) : c.write.canonical = w := by
  have ordered := ordered_of_ofJson ((ofJson_eq_ok_iff canonical).2 read)
  obtain ⟨members, rfl, named, properties⟩ := read
  obtain ⟨ascending, inner⟩ := Json.canonical_object_iff.1 canonical
  have apart : c.properties.lookup vendorIdLabel = none := by
    rw [properties, Keyed.lookup_mapValues, Keyed.lookup_erase, if_pos rfl]
    rfl
  have names := nodup_written ordered apart
  rw [write, Json.canonical_object]
  refine congrArg Json.object (Keyed.ext (Keyed.ascending_ofList _) ascending fun name => ?_)
  rw [← Keyed.map_fst_mapValues Json.canonical] at names
  rw [Keyed.lookup_ofList names, Keyed.lookup_mapValues, Keyed.lookup_cons,
    VendorValue.writeMembers_eq_mapValues, Keyed.lookup_mapValues, properties,
    Keyed.lookup_mapValues, Keyed.lookup_erase]
  by_cases same : name = vendorIdLabel
  · subst same
    rw [if_pos rfl, named]
    rfl
  · rw [if_neg same, if_neg same]
    cases found : members.lookup name with
    | none => rfl
    | some w =>
      exact congrArg some
        (VendorValue.canonical_write_ofJson (inner _ (Keyed.mem_of_lookup found)))

/-! ### Structures -/

/-- **An object is written as what it was read from**, without the members that are `null`, once
each of its fields is. -/
theorem Structure.canonical_object_eq {ι : Type} {s : Structure ι} (change : String → Json → Json)
    {members entries : List (String × Json)} (canonical : (Json.object members).Canonical)
    (fits : s.Fits (.object members)) (distinct : (entries.map Prod.fst).Nodup)
    (known : ∀ name ∈ entries.map Prod.fst, name ∈ s.labels)
    (each : ∀ i (slot : Slot s.fields i), (entries.lookup (s.label i)).map Json.canonical =
      (s.part (.object members) slot).map (change (s.label i))) :
    (Json.object entries).canonical =
      .object ((members.filter fun entry => !entry.2.isNull).map fun entry =>
        (entry.1, change entry.1 entry.2)) := by
  have ascending := (Json.canonical_object_iff.1 canonical).1
  have kept : Keyed.Ascending ((members.filter fun entry => !entry.2.isNull).map fun entry =>
      (entry.1, change entry.1 entry.2)) := List.pairwise_map.2 (ascending.filter _)
  rw [Json.canonical_object]
  refine congrArg Json.object (Keyed.ext (Keyed.ascending_ofList _) kept fun name => ?_)
  rw [Keyed.lookup_ofList (by rwa [Keyed.map_fst_mapValues]), Keyed.lookup_mapValues,
    Keyed.lookup_map_named, Keyed.lookup_filter_value canonical.nodup fun w => !w.isNull]
  by_cases labelled : name ∈ s.labels
  · obtain ⟨i, hi, rfl⟩ := List.mem_map.1 labelled
    obtain ⟨slot⟩ := Slot.nonempty_of_mem hi
    exact each i slot
  · rw [Keyed.lookup_eq_none_iff_notMem.2 fun member => labelled (known name member),
      Keyed.lookup_eq_none_iff_notMem.2 fun member => labelled (fits name member)]
    rfl

/-- **Status information is written as what it was read from**, an object, without the members that
are `null`. -/
theorem StatusInfo.canonical_write_of_readFrom {members : List (String × Json)} {i : StatusInfo}
    (canonical : (Json.object members).Canonical) (read : i.ReadFrom (.object members)) :
    i.write.canonical = (Json.object members).withoutNulls := by
  obtain ⟨fits, customData, reasonCode, additionalInfo⟩ := read
  obtain ⟨first, second, third⟩ := lookup_written i
  have each : ∀ part (slot : Slot form.fields part),
      (i.written.lookup (form.label part)).map Json.canonical =
        (form.part (.object members) slot).map id := by
    refine forall_slot_iff.2 ⟨?_, ?_, ?_⟩
    · rw [show i.written.lookup (form.label .customData) = _ from first, Option.map_map]
      refine map_eq_map_of_rel customData fun w there c read => ?_
      have given := (Structure.part_eq_some_iff.1 there).1
      exact CustomData.canonical_write_of_readFrom (Structure.canonical_given canonical given) read
    · rw [show i.written.lookup (form.label .reasonCode) = _ from second,
        Structure.part_eq_some_iff.2 ⟨reasonCode, rfl⟩]
      rfl
    · rw [show i.written.lookup (form.label .additionalInfo) = _ from third, additionalInfo]
      cases i.additionalInfo <;> rfl
  have written := Structure.canonical_object_eq (fun _ => id) canonical fits (nodup_written i)
    (written_labels i) each
  rw [show i.write = .object i.written from rfl, written, Json.withoutNulls]
  exact congrArg Json.object (List.map_id' _)

/-! ### Kinds and fields -/

namespace Kind

/-- The normal form of what a content is read from. -/
def normal : Kind → Json → Json
  | statusInfo => Json.withoutNulls
  | instant => Json.withCanonicalTime
  | _ => id

/-- The forms that are written again: a status as a string, status information as an object. -/
def Literal : Kind → Json → Prop
  | status _ => fun w => ∃ s, w = .string s
  | statusInfo => fun w => ∃ members, w = .object members
  | _ => fun _ => True

/-- **A content is written as the normal form of what it was read from.** -/
theorem canonical_write_of_readFrom {k : Kind} {w : Json} {x : k.Value} (canonical : w.Canonical)
    (literal : k.Literal w) (read : k.ReadFrom w x) : (k.write x).canonical = k.normal w := by
  cases k with
  | text limit =>
    obtain rfl : w = .string x := read
    rfl
  | status v =>
    rcases read with rfl | rfl
    · rfl
    · obtain ⟨s, h⟩ := literal
      cases h
  | integer =>
    obtain ⟨⟨value, fits⟩, rfl, same⟩ := read
    obtain rfl : value = x.toInt := same
    rfl
  | instant =>
    obtain ⟨text, rfl, read⟩ := read
    show _ = Json.withCanonicalTime (.string text)
    rw [Json.withCanonicalTime, read]
    rfl
  | customData => exact CustomData.canonical_write_of_readFrom canonical read
  | statusInfo =>
    obtain ⟨members, rfl⟩ := literal
    exact StatusInfo.canonical_write_of_readFrom canonical read
  | data =>
    obtain rfl : x = VendorValue.ofJson w := read
    exact VendorValue.canonical_write_ofJson canonical

end Kind

namespace MessageType

variable {t : MessageType} {f : Field}

/-- The names of the catalog tell which contents have a normal form of their own. -/
theorem normalPart_label (member : f ∈ t.fields) (w : Json) :
    Json.normalPart f.label w = f.kind.normal w := by
  have all : ∀ f ∈ t.fields, Json.normalPart f.label w = f.kind.normal w := by
    obtain ⟨action, direction⟩ := t
    cases action <;> cases direction <;>
      simp [fields, customData, status, statusInfo, data, Json.normalPart, Kind.normal]
  exact all f member

/-- In the catalog what is a status has the name of a status, and so has status information. -/
theorem label_of_kind (member : f ∈ t.fields) :
    (∀ v, f.kind = .status v → f.label = "status") ∧
      (f.kind = .statusInfo → f.label = "statusInfo") := by
  have all : ∀ f ∈ t.fields, (∀ v, f.kind = .status v → f.label = "status") ∧
      (f.kind = .statusInfo → f.label = "statusInfo") := by
    obtain ⟨action, direction⟩ := t
    cases action <;> cases direction <;>
      simp [fields, customData, status, statusInfo, data]
  exact all f member

end MessageType

/-! ### Messages -/

namespace Message

variable {t : MessageType}

/-- **A message is written as the normal form of what it was read from**, an object with a string
for the status and an object for status information, if they are there. -/
theorem canonical_write_of_readFrom {members : List (String × Json)} {m : Message t}
    (canonical : (Json.object members).Canonical) (read : m.ReadFrom (.object members))
    (status : ∀ w ∈ members.lookup "status", ∃ s, w = .string s)
    (statusInfo : ∀ w ∈ members.lookup "statusInfo", w = .null ∨ ∃ inner, w = .object inner) :
    m.write.canonical = (Json.object members).normal := by
  obtain ⟨fits, read⟩ := read
  have distinct := t.labels_nodup
  have names := names_written_sublist m.contents
  have literal {f : Field} {slot : Slot t.fields f} {w : Json}
      (there : t.form.part (.object members) slot = some w) : f.kind.Literal w := by
    obtain ⟨given, present⟩ := Structure.part_eq_some_iff.1 there
    obtain ⟨ofStatus, ofStatusInfo⟩ := MessageType.label_of_kind slot.mem
    have listed : members.lookup f.label = some w := given
    cases kind : f.kind with
    | status v =>
      rw [ofStatus v kind] at listed
      exact status w listed
    | statusInfo =>
      rw [ofStatusInfo kind] at listed
      rcases statusInfo w listed with rfl | inner
      · cases present
      · exact inner
    | _ => trivial
  have each (f : Field) (slot : Slot t.fields f) :
      ((written m.contents).lookup f.label).map Json.canonical =
        (t.form.part (.object members) slot).map (Json.normalPart f.label) := by
    have listed := lookup_written distinct m.contents slot
    refine (congrArg (Option.map Json.canonical) listed).trans ((Option.map_map ..).trans ?_)
    refine map_eq_map_of_rel (read f slot) fun w there x hx => ?_
    have given := (Structure.part_eq_some_iff.1 there).1
    rw [MessageType.normalPart_label slot.mem]
    exact Kind.canonical_write_of_readFrom (Structure.canonical_given canonical given)
      (literal there) hx
  exact Structure.canonical_object_eq (s := t.form) Json.normalPart canonical fits
    (names.nodup distinct) names.subset each

end Message

/-- **Decoding and encoding is normalization.**  What is decoded from a payload can be encoded.
Where the payload is an object, with a string for the status and an object for status information,
the result is the normal form of the payload.  In whatever form the payload came, to decode and
encode the result once more changes nothing. -/
theorem payload_of_decode {action : Action} {direction : Direction} {v : Json} {m : TypedMessage}
    (canonical : v.Canonical) (decoded : TypedMessage.decode action direction v = .ok m) :
    ∃ p, m.payload = .ok p ∧
      (∀ members, v = .object members →
        (∀ w ∈ members.lookup "status", ∃ s, w = .string s) →
        (∀ w ∈ members.lookup "statusInfo", w = .null ∨ ∃ inner, w = .object inner) →
          p = v.normal) ∧
      ∃ n, TypedMessage.decode action direction p = .ok n ∧ n.payload = .ok p := by
  obtain ⟨m, hm, rfl⟩ := map_eq_ok_iff.1 decoded
  obtain ⟨read, valid⟩ := (Message.decode_iff canonical).1 hm
  obtain ⟨draft, -, made⟩ := bind_eq_ok_iff.1 hm
  have sound : m.Sound := Message.sound_ofDraft (mapError_eq_ok_iff.1 made)
  have back := Message.decode_canonical_write sound (Message.ordered_of_decode hm)
  refine ⟨m.write.canonical, encode_eq_ok valid, ?_, ⟨_, m⟩, ?_, encode_eq_ok valid⟩
  · rintro members rfl status statusInfo
    exact Message.canonical_write_of_readFrom canonical read status statusInfo
  · rw [TypedMessage.decode, back]
    rfl

/-- A `null` goes from the payload and from its status information, and stays in custom data and in
data. -/
theorem payload_of_decode_nulls :
    let custom : Json := .object [("note", .null), ("vendorId", .string "acme")]
    let v : Json := .object [("customData", custom), ("data", .array [.null]),
      ("status", .string "Accepted"),
      ("statusInfo", .object [("additionalInfo", .null), ("reasonCode", .string "Busy")])]
    let w : Json := .object [("customData", custom), ("data", .array [.null]),
      ("status", .string "Accepted"), ("statusInfo", .object [("reasonCode", .string "Busy")])]
    v.Canonical ∧ ∃ m, TypedMessage.decode .dataTransfer .response v = .ok m ∧ m.payload = .ok w ∧
      ∃ n, TypedMessage.decode .dataTransfer .response w = .ok n ∧ n.payload = .ok w := by
  intro custom v w
  have canonical : v.Canonical :=
    ⟨by decide, ⟨by decide, trivial, trivial, trivial⟩, ⟨trivial, trivial⟩, trivial,
      ⟨by decide, trivial, trivial, trivial⟩, trivial⟩
  let m : TypedMessage := ⟨⟨.dataTransfer, .response⟩,
    ⟨.cons (some ⟨"acme", [("note", .null)]⟩) (.cons ⟨"Accepted", by decide⟩
      (.cons (some ⟨none, "Busy", none⟩) (.cons (some (.array [.null])) .nil)))⟩⟩
  have decoded : TypedMessage.decode .dataTransfer .response v = .ok m := rfl
  obtain ⟨p, hp, normal, again⟩ := payload_of_decode canonical decoded
  have same : p = w := normal _ rfl (fun _ h => ⟨"Accepted", (Option.some.inj h).symm⟩)
    fun _ h => .inr ⟨_, (Option.some.inj h).symm⟩
  subst same
  exact ⟨canonical, m, decoded, hp, again⟩

end ChargePoint
