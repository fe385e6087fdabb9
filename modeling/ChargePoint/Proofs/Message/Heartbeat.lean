import ChargePoint.Proofs.Message.Outbound
import ChargePoint.Proofs.Message.Representation
import ChargePoint.Proofs.Time.Zoned

/-!
# The time of a heartbeat

The response to a heartbeat tells the time.  It can be written in a payload with any offset from
universal time and any number of digits; what is kept is the instant, and what is written is the one
canonical text of it.  People are shown the same text with another way to write universal time, and
that can be given back in a payload as well.

## Main definitions

* `HeartbeatResponse`, `HeartbeatResponse.currentTime`: the responses to heartbeats, and the instant
  that one tells.

## Main results

* `Message.decode_insert`: what stands for a field may be replaced by anything read as its content.
* `currentTime_preserved`: the time survives being written, shown and read.
-/

namespace ChargePoint

open ChargePoint.Representation (orNull layout judgement)

/-! ### Another text for a field -/

/-- **What stands for a field may be replaced** by anything that is read as the same content. -/
theorem Message.decode_insert {t : MessageType} {m : Message t} {members : List (String × Json)}
    (canonical : (Json.object members).Canonical)
    (h : decode (Message t) (.object members) = .ok m) {f : Field} (slot : Slot t.fields f)
    {value : f.kind.Value} (there : f.value? (m.get slot) = some value) {w : Json}
    (canonical' : w.Canonical) (present : w.isNull = false) (read : f.kind.ReadFrom w value) :
    decode (Message t) (.object (Keyed.insert f.label w members)) = .ok m := by
  obtain ⟨⟨fits, parts⟩, valid⟩ := (decode_iff canonical).1 h
  obtain ⟨ascending, values⟩ := Json.canonical_object_iff.1 canonical
  have canonical : (Json.object (Keyed.insert f.label w members)).Canonical := by
    refine Json.canonical_object_iff.2 ⟨Keyed.ascending_insert _ _ ascending, ?_⟩
    intro entry member
    rcases Keyed.mem_insert member with rfl | old
    · exact canonical'
    · exact values entry old
  refine (decode_iff canonical).2 ⟨⟨fun name member => ?_, fun g other => ?_⟩, valid⟩
  · obtain ⟨entry, inserted, rfl⟩ := List.mem_map.1 member
    rcases Keyed.mem_insert inserted with rfl | old
    · exact List.mem_map_of_mem slot.mem
    · exact fits _ (List.mem_map_of_mem old)
  · have given : t.form.given (.object (Keyed.insert f.label w members)) other =
        if g.label = f.label then some w else t.form.given (.object members) other :=
      Keyed.lookup_insert ..
    have part : t.form.part (.object (Keyed.insert f.label w members)) other = _ :=
      congrArg (Option.filter fun w : Json => !w.isNull) given
    rw [part]
    by_cases same : g.label = f.label
    · cases Slot.eq_of_label t.labels_nodup other slot same
      rw [if_pos rfl, there, Option.filter_some_pos (by rw [present]; rfl)]
      exact .some read
    · rw [if_neg same]
      exact parts g other

/-! ### Responses to heartbeats -/

/-- The responses to heartbeats. -/
abbrev HeartbeatResponse : Type := Message ⟨.heartbeat, .response⟩

namespace HeartbeatResponse

/-- Where a response to a heartbeat holds the time. -/
def timeSlot : Slot (MessageType.fields ⟨.heartbeat, .response⟩)
    ⟨"currentTime", .instant, .required⟩ := .next .first

/-- **The instant that a response tells.** -/
def currentTime (m : HeartbeatResponse) : Instant := m.get timeSlot

/-- The custom data of a response. -/
def customData (m : HeartbeatResponse) : Option CustomData := m.get .first

theorem sound_of_valid {m : HeartbeatResponse} (valid : Validated.valid m = true) : m.Sound := by
  have noData : ∀ f ∈ MessageType.fields ⟨.heartbeat, .response⟩, f.kind ≠ .data := by decide
  have settled : m.Settled := fun f slot =>
    Field.settle_eq_self fun _ _ => Kind.isNull_of_ne_data (noData f slot.mem)
  exact fun f slot => ⟨settled f slot, Message.valid_iff.1 valid f slot⟩

/-- What is shown of a response. -/
theorem represent_eq (m : HeartbeatResponse) :
    m.represent = layout "HeartbeatResponse"
      [("customData", orNull (m.customData.map CustomData.represent)),
        ("currentTime", m.currentTime.plainText), judgement (Validated.valid m)] := by
  match m with
  | ⟨.cons customData (.cons currentTime .nil)⟩ => exact Message.represent_eq _

/-- The payload of a response that is valid gives the time as its text. -/
theorem exists_payload {m : HeartbeatResponse} (valid : Validated.valid m = true)
    (ordered : m.Ordered) :
    ∃ members, encode m = .ok (.object members) ∧ (Json.object members).Canonical ∧
      members.lookup "currentTime" = some (.string m.currentTime.wireText) ∧
      decode HeartbeatResponse (.object members) = .ok m := by
  obtain ⟨members, made, -, found⟩ := m.exists_canonical_write
  refine ⟨members, ?_, ?_, found _ timeSlot, ?_⟩
  · rw [← made]
    exact encode_eq_ok valid
  · rw [← made]
    exact Json.canonical_canonical _
  · rw [← made]
    exact Message.decode_canonical_write (sound_of_valid valid) ordered

/-- The time that a payload gives. -/
theorem exists_text_of_decode {v : Json} (canonical : v.Canonical) {m : HeartbeatResponse}
    (h : decode HeartbeatResponse v = .ok m) :
    ∃ text, (MessageType.form ⟨.heartbeat, .response⟩).given v timeSlot = some (.string text) ∧
      Instant.read text = .ok m.currentTime := by
  obtain ⟨⟨-, parts⟩, -⟩ := (Message.decode_iff canonical).1 h
  obtain ⟨w, part, text, rfl, read⟩ := rel_some_iff.1 (parts _ timeSlot)
  exact ⟨text, (Structure.part_eq_some_iff.1 part).1, read⟩

theorem canonical_time (text : String) :
    (Json.object [("currentTime", .string text)]).Canonical := by
  refine Json.canonical_object_iff.2 ⟨List.pairwise_singleton .., fun entry member => ?_⟩
  obtain rfl := List.mem_singleton.1 member
  trivial

/-- A payload with nothing but the time is decoded, if the time is. -/
theorem decode_of_read {text : String} {t : Instant} (read : Instant.read text = .ok t) :
    decode HeartbeatResponse (.object [("currentTime", .string text)]) =
      .ok (Message.heartbeatAt t) := by
  have fits : (MessageType.form ⟨.heartbeat, .response⟩).Fits
      (.object [("currentTime", .string text)]) := by
    intro name member
    obtain rfl := List.mem_singleton.1 member
    exact List.mem_map_of_mem timeSlot.mem
  refine (Message.decode_iff (canonical_time text)).2 ⟨⟨fits, ?_⟩, rfl⟩
  exact Slot.forall_cons_iff.2 ⟨.none, Slot.forall_cons_iff.2 ⟨.some ⟨_, rfl, read⟩, nofun⟩⟩

end HeartbeatResponse

/-- **The time of a heartbeat is preserved.**

* The payload of a valid response gives the time in universal time, and is decoded to the response.
  People are shown the same text, with the zone written in another way, and with that text in its
  place the payload is decoded to the response as well.
* A date and a time of day, with any digits for the fraction and the offset of any zone, are decoded
  as the instant that they denote.
* Whatever text the time was decoded from, the instant is the one that its parts denote, the offset
  taken away.  The payload of the response gives it as the only text in canonical form that is read
  as that instant, and is decoded to the same response. -/
theorem currentTime_preserved :
    (∀ m : HeartbeatResponse, Validated.valid m = true → m.Ordered →
      ∃ members stem, encode m = .ok (.object members) ∧
        members.lookup "currentTime" = some (.string (stem ++ "Z")) ∧
        decode HeartbeatResponse (.object members) = .ok m ∧
        m.represent = layout "HeartbeatResponse"
          [("customData", orNull (m.customData.map CustomData.represent)),
            ("currentTime", stem ++ "+00:00"), judgement true] ∧
        decode HeartbeatResponse
          (.object (Keyed.insert "currentTime" (.string (stem ++ "+00:00")) members)) = .ok m) ∧
    (∀ (z : Zoned) (t : Instant), z.moment.Denotes t →
      decode HeartbeatResponse (.object [("currentTime", .string z.text)]) =
        .ok (Message.heartbeatAt t)) ∧
    ∀ v : Json, v.Canonical → ∀ m : HeartbeatResponse, decode HeartbeatResponse v = .ok m →
      (∃ text moment,
        (MessageType.form ⟨.heartbeat, .response⟩).given v HeartbeatResponse.timeSlot =
          some (.string text) ∧
        Moment.read text = .ok moment ∧ moment.Denotes m.currentTime) ∧
      ∃ members text, encode m = .ok (.object members) ∧
        members.lookup "currentTime" = some (.string text) ∧
        (∀ other,
          other = text ↔ Instant.Canonical other ∧ Instant.read other = .ok m.currentTime) ∧
        decode HeartbeatResponse (.object members) = .ok m := by
  refine ⟨fun m valid ordered => ?_, fun z t denotes => ?_, fun v canonical m h => ⟨?_, ?_⟩⟩
  · obtain ⟨members, made, canonical, found, back⟩ := HeartbeatResponse.exists_payload valid ordered
    obtain ⟨stem, written⟩ := m.currentTime.exists_stem
    have shown : m.currentTime.plainText = stem ++ "+00:00" := written _
    refine ⟨members, stem, made, ?_, back, ?_, ?_⟩
    · rw [← written]
      exact found
    · rw [← shown, ← valid]
      exact m.represent_eq
    · rw [← shown]
      exact Message.decode_insert canonical back HeartbeatResponse.timeSlot rfl trivial rfl
        ⟨_, rfl, Instant.read_plainText _⟩
  · exact HeartbeatResponse.decode_of_read (Zoned.read_instant denotes)
  · obtain ⟨text, given, read⟩ := HeartbeatResponse.exists_text_of_decode canonical h
    obtain ⟨moment, parts, made⟩ := bind_eq_ok_iff.1 read
    exact ⟨text, moment, given, parts, (Moment.toInstant_eq_ok_iff.1 made).2.2⟩
  · have valid := ((Message.decode_iff canonical).1 h).2
    obtain ⟨members, made, -, found, back⟩ :=
      HeartbeatResponse.exists_payload valid (Message.ordered_of_decode h)
    exact ⟨members, _, made, found, fun other => Instant.eq_wireText_iff, back⟩

/-- A leap second at the end of a year, told in the next year of another zone and to more digits
than there are nanoseconds. -/
theorem currentTime_preserved_leapSecond :
    let t : Instant := ⟨1483228799, 1123456789, by decide, by decide⟩
    let m := Message.heartbeatAt t
    decode HeartbeatResponse
        (.object [("currentTime", .string "2017-01-01T05:29:60.1234567899999+05:30")]) = .ok m ∧
      ∃ members stem, encode m = .ok (.object members) ∧
        members.lookup "currentTime" = some (.string "2016-12-31T23:59:60.123456789Z") ∧
        stem ++ "Z" = "2016-12-31T23:59:60.123456789Z" ∧
        decode HeartbeatResponse (.object members) = .ok m ∧
        decode HeartbeatResponse
          (.object (Keyed.insert "currentTime" (.string (stem ++ "+00:00")) members)) = .ok m := by
  intro t m
  obtain ⟨written, zoned, read⟩ := currentTime_preserved
  have decoded := zoned ⟨⟨2017, 1, 1⟩, 5, 29, 60, "1234567899999".toList, false, 5, 30, by decide,
    by decide, by decide, by simp, by decide⟩ t ⟨by decide, by decide, by decide⟩
  have spelled : Zoned.text ⟨⟨2017, 1, 1⟩, 5, 29, 60, "1234567899999".toList, false, 5, 30,
      by decide, by decide, by decide, by simp, by decide⟩ =
        "2017-01-01T05:29:60.1234567899999+05:30" := by rfl
  rw [spelled] at decoded
  have text : Instant.wireText ⟨1483228799, 1123456789, by decide, by decide⟩ =
      "2016-12-31T23:59:60.123456789Z" := by rfl
  obtain ⟨members, stem, made, found, back, -, shown⟩ :=
    written m rfl (Message.ordered_heartbeatAt t)
  obtain ⟨-, members', other, made', found', only, -⟩ :=
    read _ (HeartbeatResponse.canonical_time _) m decoded
  have only := (only t.wireText).2 ⟨t.canonical_wireText, t.read_wireText⟩
  cases made.symm.trans made'
  rw [← only, text] at found'
  have zone : stem ++ "Z" = "2016-12-31T23:59:60.123456789Z" := by
    rw [found] at found'
    exact Json.string.inj (Option.some.inj found')
  exact ⟨decoded, members, stem, made, found', zone, back, shown⟩

end ChargePoint
