import ChargePoint.Proofs.Conversion
import ChargePoint.Proofs.Json.Distinct
import ChargePoint.Proofs.Message.RoundTrip

/-!
# What goes out

A message is written as an object with a member for each field that is there.  Only data could be
written as `null`, and a check leaves none that are; only custom data put two name spaces into one
object, and valid ones keep them apart.  So the tree of a message of a run repeats no name at any
level, and its payload is that tree but for the order of members.

## Main definitions

* `Json.Filled`: an object of which no member is `null`.

## Main results

* `CustomData.distinct_write_iff`: custom data repeat a name only for a property that takes that of
  the vendor id.
* `Message.distinct_write`, `Message.filled_write`: the tree of a message.
* `payload_conforms`: the payloads of messages of runs.
-/

namespace ChargePoint

/-! ### Objects without `null` -/

namespace Json

/-- **An object of which no member is `null`.** -/
def Filled : Json → Prop
  | object members => ∀ entry ∈ members, entry.2.isNull = false
  | _ => False

/-- Collecting members makes no new `null`: what is collected was written. -/
theorem filled_canonical {v : Json} (h : v.Filled) : v.canonical.Filled := by
  cases v with
  | object members =>
    rw [canonical_object]
    intro entry member
    rcases Keyed.mem_mapValues_iff.1 (Keyed.mem_of_mem_ofList member) with ⟨old, there, rfl⟩
    exact (isNull_canonical _).trans (h old there)
  | _ => exact h

end Json

/-! ### Parts -/

theorem VendorValue.distinct_write {value : VendorValue} (h : value.Ordered) :
    value.write.Distinct := (canonical_write h).distinct

/-- **Custom data repeat a name** exactly if a property takes that of the vendor id. -/
theorem CustomData.distinct_write_iff {c : CustomData} (ordered : c.Ordered) :
    c.write.Distinct ↔ c.get? vendorIdLabel = none := by
  constructor
  · intro distinct
    have names := (Json.distinct_object_iff.1 distinct).1
    rw [List.map_cons, VendorValue.writeMembers_eq_mapValues, Keyed.map_fst_mapValues] at names
    exact Keyed.lookup_eq_none_iff_notMem.2 (List.nodup_cons.1 names).1
  · intro apart
    have properties : (VendorValue.object c.properties).write.Distinct :=
      VendorValue.distinct_write ordered
    refine Json.distinct_object_iff.2 ⟨nodup_written ordered apart, ?_⟩
    exact List.forall_mem_cons.2 ⟨trivial, (Json.distinct_object_iff.1 properties).2⟩

namespace StatusInfo

theorem forall_mem_written {p : String × Json → Prop} {i : StatusInfo} :
    (∀ entry ∈ i.written, p entry) ↔ (∀ c ∈ i.customData, p ("customData", c.write)) ∧
      p ("reasonCode", .string i.reasonCode) ∧
        ∀ text ∈ i.additionalInfo, p ("additionalInfo", .string text) := by
  rw [written, List.forall_mem_append, List.forall_mem_cons]
  simp

/-- The properties are written after the vendor id, so no name is repeated as long as none of them
bears that name. -/
theorem distinct_write {i : StatusInfo} (ordered : i.Ordered)
    (apart : ∀ c ∈ i.customData, c.get? CustomData.vendorIdLabel = none) : i.write.Distinct := by
  refine Json.distinct_object_iff.2 ⟨nodup_written i, forall_mem_written.2 ⟨?_, trivial, ?_⟩⟩
  · intro c there
    exact (CustomData.distinct_write_iff (ordered c there)).2 (apart c there)
  · intro text there
    trivial

theorem filled_write (i : StatusInfo) : i.write.Filled :=
  forall_mem_written.2 ⟨fun _ _ => rfl, rfl, fun _ _ => rfl⟩

end StatusInfo

/-! ### Contents -/

namespace Kind

variable {k : Kind}

/-- **A valid content repeats no name**, once its names are in order. -/
theorem distinct_write {x : k.Value} (ordered : k.Ordered x) (valid : k.valid x = true) :
    (k.write x).Distinct := by
  cases k with
  | customData =>
    exact (CustomData.distinct_write_iff ordered).2 (CustomData.valid_iff.1 valid).2
  | statusInfo =>
    have inner := (StatusInfo.valid_iff.1 valid).1
    exact StatusInfo.distinct_write ordered fun c there =>
      (CustomData.valid_iff.1 (inner c there)).2
  | data => exact VendorValue.distinct_write ordered
  | _ => trivial

theorem isNull_write (x : k.Value) : (k.write x).isNull = k.isNull x := by
  rw [← Json.isNull_canonical, isNull_canonical_write]

end Kind

/-- Only status information is written under its name. -/
theorem MessageType.eq_statusInfo_of_label {t : MessageType} {f : Field} (member : f ∈ t.fields)
    (h : f.label = "statusInfo") : f = statusInfo := by
  have all : ∀ f ∈ t.fields, f.label = "statusInfo" → f = statusInfo := by
    obtain ⟨action, direction⟩ := t
    cases action <;> cases direction <;> decide
  exact all f member h

/-! ### Messages -/

namespace Message

/-- **What contents write** is one member for each field that is there. -/
theorem mem_written_iff {fields : List Field} {contents : Record Field.Content fields}
    {entry : String × Json} :
    entry ∈ written contents ↔ ∃ f, ∃ slot : Slot fields f,
      ∃ value ∈ f.value? (contents.get slot), (f.label, f.kind.write value) = entry := by
  induction contents with
  | nil =>
    constructor
    · exact nofun
    · rintro ⟨f, slot, -⟩
      exact nomatch slot
  | @cons g fields head tail ih =>
    have here : entry ∈ (g.write head).toList ↔
        ∃ value ∈ g.value? head, (g.label, g.kind.write value) = entry := by
      rw [Option.mem_toList, Field.write]
      exact Option.map_eq_some_iff
    rw [written_cons, List.mem_append, here, ih]
    constructor
    · rintro (first | ⟨f, slot, later⟩)
      · exact ⟨g, .first, first⟩
      · exact ⟨f, .next slot, later⟩
    · rintro ⟨f, slot, there⟩
      cases slot with
      | first => exact .inl there
      | next slot => exact .inr ⟨f, slot, there⟩

/-- The names that are written are those of the fields that are present. -/
theorem name_mem_written_iff {fields : List Field} {contents : Record Field.Content fields}
    {name : String} :
    name ∈ (written contents).map Prod.fst ↔ ∃ f, ∃ slot : Slot fields f,
      f.label = name ∧ (f.value? (contents.get slot)).isSome = true := by
  simp only [List.mem_map, mem_written_iff]
  constructor
  · rintro ⟨entry, ⟨f, slot, value, there, rfl⟩, rfl⟩
    exact ⟨f, slot, rfl, Option.isSome_of_mem there⟩
  · rintro ⟨f, slot, rfl, there⟩
    obtain ⟨value, there⟩ := Option.isSome_iff_exists.1 there
    exact ⟨_, ⟨f, slot, value, there, rfl⟩, rfl⟩

variable {t : MessageType} {m : Message t}

/-- **The tree of a message repeats no name**, at any level. -/
theorem distinct_write (sound : m.Sound) (ordered : m.Ordered) : m.write.Distinct := by
  have names := (names_written_sublist m.contents).nodup t.labels_nodup
  refine Json.distinct_object_iff.2 ⟨names, fun entry member => ?_⟩
  obtain ⟨f, slot, value, there, rfl⟩ := mem_written_iff.1 member
  exact Kind.distinct_write (ordered f slot value there) (sound.kind_valid there)

/-- **No member of the tree of a message is `null`.** -/
theorem filled_write (sound : m.Sound) : m.write.Filled := by
  intro entry member
  obtain ⟨f, slot, value, there, rfl⟩ := mem_written_iff.1 member
  exact (Kind.isNull_write value).trans (sound.isNull_eq_false there)

/-- The members of a payload: those of the fields that are there, and what stands under the name of
a field. -/
theorem exists_canonical_write (m : Message t) :
    ∃ members, m.write.canonical = .object members ∧
      (∀ name, name ∈ members.map Prod.fst ↔ ∃ f, ∃ slot : Slot t.fields f,
        f.label = name ∧ (f.value? (m.get slot)).isSome = true) ∧
      ∀ f (slot : Slot t.fields f), members.lookup f.label =
        (f.value? (m.get slot)).map fun value => (f.kind.write value).canonical := by
  have names : ((Keyed.mapValues Json.canonical (written m.contents)).map Prod.fst).Nodup := by
    rw [Keyed.map_fst_mapValues]
    exact (names_written_sublist m.contents).nodup t.labels_nodup
  refine ⟨_, Json.canonical_object _, ?_, ?_⟩
  · intro name
    have collected := (Keyed.ofList_perm names).map Prod.fst
    rw [Keyed.map_fst_mapValues] at collected
    exact collected.mem_iff.trans name_mem_written_iff
  · intro f slot
    have there := lookup_written t.labels_nodup m.contents slot
    exact (Keyed.lookup_ofList names _).trans ((Keyed.lookup_mapValues ..).trans
      ((congrArg (Option.map Json.canonical) there).trans (Option.map_map ..)))

end Message

/-- **Payloads conform.**

* The payload of a message of a run is an object that has a member for a field exactly if the field
  is there, as a required one always is, and no other member.  No member of it is `null`, nor is one
  of status information.  The tree that the message writes repeats no name at any level, and the
  payload is that tree but for the order of members.
* Custom data by themselves write a tree that repeats a name exactly if they have a property with
  the name of the vendor id. -/
theorem payload_conforms :
    (∀ operations : List Operation, (∀ operation ∈ operations, operation.Ordered) →
      ∀ m ∈ run operations, ∃ members,
        m.payload = .ok (.object members) ∧ (Json.object members).Canonical ∧
        (∀ name, name ∈ members.map Prod.fst ↔ ∃ f, ∃ slot : Slot m.type.fields f,
          f.label = name ∧ (f.value? (m.message.get slot)).isSome = true) ∧
        (∀ f (slot : Slot m.type.fields f), members.lookup f.label =
          (f.value? (m.message.get slot)).map fun value => (f.kind.write value).canonical) ∧
        (∀ f ∈ m.type.fields, f.presence = .required → f.label ∈ members.map Prod.fst) ∧
        (Json.object members).Filled ∧
        (∀ info, members.lookup "statusInfo" = some info → info.Filled) ∧
        m.message.write.Distinct ∧ m.message.write.Reorders (.object members)) ∧
    ∀ c : CustomData, c.Ordered →
      (¬c.write.Distinct ↔ ∃ value, c.get? "vendorId" = some value) := by
  refine ⟨?_, ?_⟩
  · intro operations ordered m member
    have sound := sound_of_mem_run member
    have distinct := Message.distinct_write sound (ordered_of_mem_run ordered member)
    obtain ⟨members, made, named, found⟩ := m.message.exists_canonical_write
    refine ⟨members, ?_, ?_, named, found, ?_, ?_, ?_, distinct, ?_⟩
    · rw [← made]
      exact encode_eq_ok sound.valid
    · rw [← made]
      exact Json.canonical_canonical _
    · intro f there required
      obtain ⟨slot⟩ := Slot.nonempty_of_mem there
      refine (named f.label).2 ⟨f, slot, rfl, ?_⟩
      match f, required, slot with
      | ⟨_, _, .required⟩, _, _ => rfl
    · rw [← made]
      exact Json.filled_canonical (Message.filled_write sound)
    · intro info there
      have bears : "statusInfo" ∈ members.map Prod.fst :=
        List.mem_map_of_mem (Keyed.mem_of_lookup there)
      obtain ⟨f, slot, label, -⟩ := (named _).1 bears
      obtain rfl := MessageType.eq_statusInfo_of_label slot.mem label
      have written : members.lookup "statusInfo" = _ := found _ slot
      rw [there] at written
      obtain ⟨i, -, rfl⟩ := Option.map_eq_some_iff.1 written.symm
      exact Json.filled_canonical (StatusInfo.filled_write i)
    · rw [← made]
      exact Json.reorders_canonical_iff.2 distinct
  · intro c ordered
    rw [CustomData.distinct_write_iff ordered, ← ne_eq, Option.ne_none_iff_exists']
    rfl

/-- Data that are `null` give no member, custom data may hold what is `null`, and a property with
the name of the vendor id is written beside it. -/
theorem payload_conforms_null :
    let c : CustomData := ⟨"acme", [("note", .null)]⟩
    let info : StatusInfo := ⟨some c, "Busy", none⟩
    let accepted : Status .dataTransfer := ⟨"Accepted", by decide⟩
    let m : TypedMessage := ⟨⟨.dataTransfer, .response⟩,
      ⟨.cons none (.cons accepted (.cons (some info) (.cons none .nil)))⟩⟩
    let operations : List Operation :=
      [.build (.new ⟨.dataTransfer, .response⟩ (.cons accepted .nil)),
        .change 0 ⟨⟨.dataTransfer, .response⟩, _, .next (.next .first), some info⟩,
        .change 0 ⟨⟨.dataTransfer, .response⟩, _, .next (.next (.next .first)), some .null⟩]
    let d : CustomData := ⟨"acme", [("vendorId", .null)]⟩
    m ∈ run operations ∧
      (∃ members, m.payload = .ok (.object members) ∧ members.lookup "data" = none ∧
        (Json.object members).Filled ∧ m.message.write.Reorders (.object members)) ∧
      ¬d.write.Distinct := by
  intro c info accepted m operations d
  have member : m ∈ run operations := by
    have all : run operations = [m] := by
      dsimp only [operations, m, info, c]
      rfl
    rw [all]
    exact List.mem_singleton_self m
  have note : c.Ordered := ⟨by decide, trivial, trivial⟩
  have ordered : ∀ operation ∈ operations, operation.Ordered := by
    intro operation member
    rcases List.mem_cons.1 member with rfl | member
    · exact Slot.forall_cons_iff.2 ⟨trivial, nofun⟩
    rcases List.mem_cons.1 member with rfl | member
    · intro value there
      cases there
      intro custom there
      cases there
      exact note
    · obtain rfl := List.mem_singleton.1 member
      intro value there
      cases there
      trivial
  obtain ⟨payloads, customData⟩ := payload_conforms
  obtain ⟨members, made, -, -, found, -, filled, -, -, reorders⟩ :=
    payloads operations ordered m member
  refine ⟨member, ⟨members, made, ?_, filled, reorders⟩, ?_⟩
  · exact found MessageType.data (.next (.next (.next .first)))
  · exact (customData d ⟨by decide, trivial, trivial⟩).2 ⟨.null, rfl⟩

end ChargePoint
