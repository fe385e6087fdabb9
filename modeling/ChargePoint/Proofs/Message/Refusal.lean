import ChargePoint.Proofs.Message.Misshapen
import ChargePoint.Proofs.Message.Validity

/-!
# Why a payload is refused

A payload that is refused has the wrong shape, or breaks a limit.  The shape counts first: whatever
limits are broken besides, a payload of the wrong shape is refused for that.  Otherwise it is
refused for the first limit that it breaks, in an order that is the same for every type: a required
part that is missing, then the limit of that part, then custom data, and then a message id or status
information.  Limits inside custom data and status information count as one limit of the whole part.

## Main definitions

* `Grammar.missing`, `tooLong`, `outOfRange`, `invalidPart`: the rejections of a part, each with the
  field that it names, the value that it shows, and its reason.
* `Grammar.customDataOf`, `Grammar.statusInfoOf`: what stands in a part.
* `Grammar.broken`: the rejections of a payload, in the order in which they count.

## Main results

* `Message.failure?_ofDraft`: putting a message together fails with the first rejection.
* `decode_error_iff`: why decoding fails.
-/

namespace ChargePoint

namespace Grammar

/-! ### Rejections -/

/-- The rejection of a required part that is not there: it names the part, and says that it is
missing. -/
def missing (name : String) : Option Json → List Rejection
  | none => [{ field := name, value := "null", reason := .missing }]
  | some _ => []

/-- The rejection of a string of more than `limit` characters: it names the part, shows the string,
and gives the limit and the number of characters. -/
def tooLong (name : String) (limit : Nat) : Option Json → List Rejection
  | some (.string s) =>
    if s.length ≤ limit then []
    else [{ field := name, value := Diagnostic.text s, reason := .tooLong limit s.length }]
  | _ => []

/-- The rejection of an integer that 32 bits do not hold: it names the part, shows the integer, and
gives the bounds. -/
def outOfRange (name : String) : Option Json → List Rejection
  | some (.number (.whole n)) =>
    if -(2 ^ (31 : Nat)) ≤ n.value ∧ n.value ≤ 2 ^ (31 : Nat) - 1 then []
    else [{ field := name, value := Diagnostic.text n.value,
            reason := .outOfRange (-(2 ^ (31 : Nat))) (2 ^ (31 : Nat) - 1) }]
  | _ => []

/-- The rejection of a part some limit inside which is broken: it names the part as a whole, and
says that it is not valid. -/
def invalidPart {α : Type} [Diagnostic α] (name : String) (bounded : α → Prop)
    [DecidablePred bounded] : Option α → List Rejection
  | some part =>
    if bounded part then []
    else [{ field := name, value := Diagnostic.text (some part), reason := .invalidPart }]
  | none => []

theorem tooLong_of_lt {name s : String} {limit : Nat} (long : limit < s.length) :
    tooLong name limit (some (.string s)) =
      [{ field := name, value := Diagnostic.text s, reason := .tooLong limit s.length }] :=
  if_neg (Nat.not_le.2 long)

theorem invalidPart_of_not {α : Type} [Diagnostic α] {name : String} {bounded : α → Prop}
    [DecidablePred bounded] {part : α} (broken : ¬ bounded part) :
    invalidPart name bounded (some part) =
      [{ field := name, value := Diagnostic.text (some part), reason := .invalidPart }] :=
  if_neg broken

/-- The string that a value is. -/
def textOf : Json → Option String
  | .string s => some s
  | _ => none

/-- The custom data that a value stands for. -/
def customDataOf : Json → Option CustomData
  | .object members =>
    match members.lookup "vendorId" with
    | some (.string vendorId) =>
      some ⟨vendorId, Keyed.mapValues VendorValue.ofJson (Keyed.erase "vendorId" members)⟩
    | _ => none
  | _ => none

/-- The status information that a value stands for. -/
def statusInfoOf (w : Json) : Option StatusInfo :=
  let part := part ["customData", "reasonCode", "additionalInfo"] w
  match part "reasonCode" with
  | some (.string reasonCode) =>
    some ⟨(part "customData").bind customDataOf, reasonCode, (part "additionalInfo").bind textOf⟩
  | _ => none

instance {α : Type} {p : α → Prop} [DecidablePred p] : DecidablePred (WherePresent p) :=
  fun x => inferInstanceAs (Decidable (∀ a ∈ x, p a))

instance : DecidablePred CustomData.Bounded := fun c =>
  inferInstanceAs (Decidable (c.vendorId.length ≤ 255 ∧
    ∀ entry ∈ c.properties, entry.1 ≠ "vendorId"))

instance (limit : Nat) : DecidablePred (AtMost limit) := fun s =>
  inferInstanceAs (Decidable (s.length ≤ limit))

instance : DecidablePred StatusInfo.Bounded := fun i =>
  inferInstanceAs (Decidable (WherePresent CustomData.Bounded i.customData ∧
    AtMost 20 i.reasonCode ∧ WherePresent (AtMost 512) i.additionalInfo))

/-- The rejection of custom data. -/
def brokenCustomData (given : Option Json) : List Rejection :=
  invalidPart "customData" CustomData.Bounded (given.bind customDataOf)

/-- The rejection of status information. -/
def brokenStatusInfo (given : Option Json) : List Rejection :=
  invalidPart "statusInfo" StatusInfo.Bounded (given.bind statusInfoOf)

/-- **The rejections of every type of payloads**, in the order in which they count, from what is
given under each name. -/
def rejections : MessageType → (String → Option Json) → List Rejection
  | ⟨.heartbeat, .request⟩, part => brokenCustomData (part "customData")
  | ⟨.heartbeat, .response⟩, part =>
    missing "currentTime" (part "currentTime") ++ brokenCustomData (part "customData")
  | ⟨.unpublishFirmware, .request⟩, part =>
    missing "checksum" (part "checksum") ++ tooLong "checksum" 32 (part "checksum") ++
      brokenCustomData (part "customData")
  | ⟨.unpublishFirmware, .response⟩, part =>
    missing "status" (part "status") ++ brokenCustomData (part "customData")
  | ⟨.cancelReservation, .request⟩, part =>
    missing "reservationId" (part "reservationId") ++
      outOfRange "reservationId" (part "reservationId") ++ brokenCustomData (part "customData")
  | ⟨.cancelReservation, .response⟩, part =>
    missing "status" (part "status") ++ brokenCustomData (part "customData") ++
      brokenStatusInfo (part "statusInfo")
  | ⟨.requestStopTransaction, .request⟩, part =>
    missing "transactionId" (part "transactionId") ++
      tooLong "transactionId" 36 (part "transactionId") ++ brokenCustomData (part "customData")
  | ⟨.requestStopTransaction, .response⟩, part =>
    missing "status" (part "status") ++ brokenCustomData (part "customData") ++
      brokenStatusInfo (part "statusInfo")
  | ⟨.dataTransfer, .request⟩, part =>
    missing "vendorId" (part "vendorId") ++ tooLong "vendorId" 255 (part "vendorId") ++
      brokenCustomData (part "customData") ++ tooLong "messageId" 50 (part "messageId")
  | ⟨.dataTransfer, .response⟩, part =>
    missing "status" (part "status") ++ brokenCustomData (part "customData") ++
      brokenStatusInfo (part "statusInfo")

/-- **The rejections of a payload**, in the order in which they count. -/
def broken (t : MessageType) (v : Json) : List Rejection := rejections t (part (names t) v)

/-! ### Rejections field by field -/

/-- The rejection of a part for the limit of its kind. -/
def limits (label : String) : Kind → Option Json → List Rejection
  | .text limit => tooLong label limit
  | .integer => outOfRange label
  | .customData => fun given => invalidPart label CustomData.Bounded (given.bind customDataOf)
  | .statusInfo => fun given => invalidPart label StatusInfo.Bounded (given.bind statusInfoOf)
  | _ => fun _ => []

theorem limits_none (label : String) (k : Kind) : limits label k none = [] := by
  cases k <;> rfl

/-- The rejections of a required field. -/
def demanded (part : String → Option Json) : Field → List Rejection
  | ⟨label, kind, .required⟩ => missing label (part label) ++ limits label kind (part label)
  | ⟨_, _, .optional⟩ => []

/-- The rejections of an optional field. -/
def allowed (part : String → Option Json) : Field → List Rejection
  | ⟨_, _, .required⟩ => []
  | ⟨label, kind, .optional⟩ => limits label kind (part label)

/-- **The rejections of a type are those of its fields**, of the required ones first. -/
theorem rejections_eq (t : MessageType) (part : String → Option Json) :
    rejections t part = t.fields.flatMap (demanded part) ++ t.fields.flatMap (allowed part) := by
  obtain ⟨action, direction⟩ := t
  cases action <;> cases direction <;>
    simp [rejections, MessageType.fields, MessageType.customData, MessageType.status,
      MessageType.statusInfo, MessageType.data, demanded, allowed, limits, brokenCustomData,
      brokenStatusInfo]

/-! ### What stands in a part -/

theorem customDataOf_eq {w : Json} {c : CustomData} (read : c.ReadFrom w) :
    customDataOf w = some c := by
  obtain ⟨members, rfl, named, properties⟩ := read
  rw [customDataOf, show members.lookup "vendorId" = _ from named]
  exact congrArg (fun properties => some (CustomData.mk c.vendorId properties)) properties.symm

theorem bind_customDataOf_eq {given : Option Json} {c : Option CustomData}
    (read : Option.Rel CustomData.ReadFrom given c) : given.bind customDataOf = c := by
  cases read with
  | none => rfl
  | some read => exact customDataOf_eq read

theorem statusInfoOf_eq {w : Json} {i : StatusInfo} (read : i.ReadFrom w) :
    statusInfoOf w = some i := by
  obtain ⟨-, customData, reasonCode, additionalInfo⟩ := readFrom_iff_listing.1 read
  have text : (i.additionalInfo.map Json.string).bind textOf = i.additionalInfo := by
    cases i.additionalInfo <;> rfl
  unfold statusInfoOf
  simp only [reasonCode, bind_customDataOf_eq customData, additionalInfo, text]

/-! ### What the checks reject -/

/-- The check of a text fails for its length alone. -/
theorem failure?_acceptText {label : String} {limit : Nat} {s : String} :
    (failure? (acceptText label limit s)).toList = tooLong label limit (some (.string s)) := by
  unfold acceptText accept tooLong
  by_cases short : s.length ≤ limit
  · rw [if_pos (fits_iff.2 short)]
    exact (if_pos short).symm
  · rw [if_neg fun fit => short (fits_iff.1 fit)]
    exact (if_neg short).symm

/-- The check of a part fails where the part is not within its bounds. -/
theorem failure?_acceptPart {α : Type} [Validated α] [Diagnostic α] {label : String}
    {bounded : α → Prop} [DecidablePred bounded]
    (valid_iff : ∀ a : α, Validated.valid a = true ↔ bounded a) {part : Option α} :
    (failure? (acceptPart label part)).toList = invalidPart label bounded part := by
  unfold acceptPart accept invalidPart
  cases part with
  | none => rfl
  | some a =>
    by_cases whole : bounded a
    · rw [if_pos (show (some a).all Validated.valid = true from (valid_iff a).2 whole)]
      exact (if_pos whole).symm
    · rw [if_neg fun valid : (some a).all Validated.valid = true => whole ((valid_iff a).1 valid)]
      exact (if_neg whole).symm

theorem failure?_acceptInteger {label : String} {n : Whole} :
    (failure? (acceptInteger label n.value)).toList =
      outOfRange label (some (.number (.whole n))) := by
  unfold acceptInteger outOfRange
  by_cases small : -(2 ^ (31 : Nat)) ≤ n.value ∧ n.value < 2 ^ (31 : Nat)
  · rw [if_pos small]
    exact (if_pos ⟨small.1, by omega⟩).symm
  · rw [if_neg small]
    exact (if_neg fun within => small ⟨within.1, by omega⟩).symm

/-- **A content that was read** is rejected for the limit of its kind. -/
theorem failure?_acceptOptional {k : Kind} {label : String} {w : Json} (canonical : w.Canonical)
    {raw : k.Raw} (read : k.ofJson w = .ok raw) :
    (failure? (do k.acceptOptional label (some (← k.narrow label raw)))).toList =
      limits label k (some w) := by
  cases k with
  | text limit =>
    obtain rfl := toText_eq_ok_iff.1 read
    exact (congrArg Option.toList (failure?_map _ _)).trans failure?_acceptText
  | integer =>
    obtain ⟨n, rfl, rfl, -⟩ := toInteger_eq_ok_iff.1 read
    exact (congrArg Option.toList (failure?_bind_pure _ _)).trans failure?_acceptInteger
  | customData =>
    have stands := customDataOf_eq ((CustomData.ofJson_eq_ok_iff canonical).1 read)
    show _ = invalidPart label CustomData.Bounded (customDataOf w)
    rw [stands]
    exact failure?_acceptPart fun _ => CustomData.valid_iff_bounded
  | statusInfo =>
    have stands := statusInfoOf_eq ((StatusInfo.ofJson_eq_ok_iff canonical).1 read)
    show _ = invalidPart label StatusInfo.Bounded (statusInfoOf w)
    rw [stands]
    exact failure?_acceptPart fun _ => StatusInfo.valid_iff_bounded
  | status v => rfl
  | instant => rfl
  | data => rfl

/-- A kind of content that is a whole in itself, not an object with limits inside. -/
def Plain (k : Kind) : Prop := k ≠ .customData ∧ k ≠ .statusInfo

/-- What has to be there is checked like what may be there. -/
theorem failure?_accept {k : Kind} (plain : Plain k) {label : String} {x : k.Value} :
    failure? (k.accept label x) = failure? (k.acceptOptional label (some x)) := by
  cases k with
  | text limit => exact (failure?_map _ _).symm
  | customData => exact absurd rfl plain.1
  | statusInfo => exact absurd rfl plain.2
  | status v => rfl
  | integer => rfl
  | instant => rfl
  | data => rfl

/-- **A field is rejected** for what is demanded of it or allowed. -/
theorem failure?_commit {f : Field} (plain : f.presence = .required → Plain f.kind)
    {part : String → Option Json} (canonical : ∀ w ∈ part f.label, w.Canonical)
    {raw : Option f.kind.Raw}
    (read : Option.Rel (fun w raw => f.kind.ofJson w = .ok raw) (part f.label) raw) :
    (failure? (f.commit raw)).toList = demanded part f ++ allowed part f := by
  match f with
  | ⟨label, kind, .required⟩ =>
    simp only [demanded, allowed, List.append_nil]
    generalize part label = given at read canonical
    cases read with
    | none => rw [limits_none, List.append_nil]; rfl
    | @some w raw read =>
      rw [missing, List.nil_append, ← failure?_acceptOptional (canonical w rfl) read]
      exact congrArg Option.toList (failure?_bind_congr fun x => failure?_accept (plain rfl))
  | ⟨label, kind, .optional⟩ =>
    simp only [demanded, allowed, List.nil_append]
    generalize part label = given at read canonical
    cases read with
    | none => cases kind <;> rfl
    | @some w raw read => exact failure?_acceptOptional (canonical w rfl) read

/-- What is demanded of a field before all others is that it is there and of no forbidden length or
size. -/
theorem failure?_commitRequired {f : Field} (plain : f.presence = .required → Plain f.kind)
    {part : String → Option Json} (canonical : ∀ w ∈ part f.label, w.Canonical)
    {raw : Option f.kind.Raw}
    (read : Option.Rel (fun w raw => f.kind.ofJson w = .ok raw) (part f.label) raw) :
    (failure? (Message.commitRequired f raw)).toList = demanded part f := by
  have committed := failure?_commit plain canonical read
  match f with
  | ⟨label, kind, .required⟩ =>
    rw [show allowed part ⟨label, kind, .required⟩ = [] from rfl, List.append_nil] at committed
    exact (congrArg Option.toList (failure?_map _ _)).trans committed
  | ⟨label, kind, .optional⟩ => rfl

/-- What has to be there in a message is plain. -/
theorem plain_of_required {t : MessageType} {f : Field} (member : f ∈ t.fields)
    (required : f.presence = .required) : Plain f.kind := by
  have all : ∀ f ∈ t.fields,
      f.presence = .required → f.kind ≠ .customData ∧ f.kind ≠ .statusInfo := by
    obtain ⟨action, direction⟩ := t
    cases action <;> cases direction <;> decide
  exact all f member required

end Grammar

open Grammar

/-- **Putting a message together fails** with the first rejection of the payload. -/
theorem Message.failure?_ofDraft {t : MessageType} {v : Json} (canonical : v.Canonical)
    {draft : Draft t} (read : readDraft t v = .ok draft) :
    failure? (ofDraft draft) = (broken t v).head? := by
  let part := part (names t) v
  have parts f (slot : Slot t.fields f) : part f.label = t.form.part v slot := by
    show Grammar.part (names t) v f.label = _
    rw [names_eq]
    exact (part_eq t.labels_nodup v slot).symm
  have values f (slot : Slot t.fields f) : ∀ w ∈ part f.label, w.Canonical := by
    intro w there
    rw [parts f slot] at there
    exact Structure.canonical_given canonical (Structure.part_eq_some_iff.1 there).1
  have reads f (slot : Slot t.fields f) : Option.Rel (fun w raw => f.kind.ofJson w = .ok raw)
      (part f.label) (draft.get slot) := by
    rw [parts f slot]
    exact ((readDraft_eq_ok_iff canonical).1 read).2 f slot
  have first : draft.errors (β := fun _ => Unit) commitRequired =
      t.fields.flatMap (demanded part) :=
    Record.errors_eq_flatMap fun f slot =>
      failure?_commitRequired (plain_of_required slot.mem) (values f slot) (reads f slot)
  have second : draft.errors Field.commit =
      t.fields.flatMap fun f => demanded part f ++ allowed part f :=
    Record.errors_eq_flatMap fun f slot =>
      failure?_commit (plain_of_required slot.mem) (values f slot) (reads f slot)
  rw [ofDraft, failure?_bind_const, failure?_bind_pure, Record.failure?_mapM, Record.failure?_mapM,
    first, second, broken, rejections_eq, List.head?_append]
  -- the second pass meets what is demanded again, but only once the first has found nothing there
  cases none : t.fields.flatMap (demanded part) with
  | cons r rest => rfl
  | nil =>
    have each := List.flatMap_eq_nil_iff.1 none
    have alone : (t.fields.map fun f => demanded part f ++ allowed part f) =
        t.fields.map (allowed part) :=
      List.map_congr_left fun f member => by rw [each f member, List.nil_append]
    rw [List.flatMap_def, alone]
    rfl

/-- What cannot be read is refused for its shape. -/
theorem Message.decode_of_unread {t : MessageType} {v : Json} {s : ShapeFault}
    (read : readDraft t v = .error s) : decode (Message t) v = .error (.shape s) := by
  show ((readDraft t v).mapError PayloadFault.shape >>= _) = _
  rw [read]
  rfl

/-- What was read is put together, and refused only for what is rejected then. -/
theorem Message.decode_of_read {t : MessageType} {v : Json} {draft : Draft t}
    (read : readDraft t v = .ok draft) :
    decode (Message t) v = (ofDraft draft).mapError .rejected := by
  show ((readDraft t v).mapError PayloadFault.shape >>= _) = _
  rw [read]
  rfl

/-- **Why decoding fails.**  It fails for the shape or with a rejection, and in no other way: for
the shape when the payload is misshapen, whatever limits are broken besides, and else with the first
of the rejections of the payload, if there are any: with the field that it names, the value that it
shows, and its reason. -/
theorem decode_error_iff {t : MessageType} {v : Json} (canonical : v.Canonical) :
    (∀ fault, decode (Message t) v = .error fault →
        (∃ s, fault = .shape s) ∨ ∃ r, fault = .rejected r) ∧
      ((∃ s, decode (Message t) v = .error (.shape s)) ↔ Misshapen t v) ∧
      ∀ r, decode (Message t) v = .error (.rejected r) ↔
        ¬ Misshapen t v ∧ (broken t v).head? = some r := by
  have readable := exists_readDraft_iff (t := t) canonical
  cases read : Message.readDraft t v with
  | error s =>
    have decoded := Message.decode_of_unread read
    have misshapen : Misshapen t v := by
      refine Classical.byContradiction fun right => ?_
      obtain ⟨draft, h⟩ := readable.2 right
      rw [read] at h
      cases h
    refine ⟨fun fault h => ?_, iff_of_true ⟨s, decoded⟩ misshapen, fun r => ?_⟩
    · rw [decoded] at h
      cases h
      exact .inl ⟨s, rfl⟩
    · rw [decoded]
      exact ⟨nofun, fun h => absurd misshapen h.1⟩
  | ok draft =>
    have right : ¬ Misshapen t v := readable.1 ⟨draft, read⟩
    have first := Message.failure?_ofDraft canonical read
    rw [Message.decode_of_read read]
    refine ⟨fun fault h => ?_, iff_of_false ?_ right, fun r => ?_⟩
    · obtain ⟨r, -, rfl⟩ := mapError_eq_error_iff.1 h
      exact .inr ⟨r, rfl⟩
    · rintro ⟨s, h⟩
      obtain ⟨r, -, same⟩ := mapError_eq_error_iff.1 h
      cases same
    · rw [and_iff_right right, ← first, failure?_eq_some_iff, mapError_eq_error_iff]
      constructor
      · rintro ⟨_, h, same⟩
        cases same
        exact h
      · exact fun h => ⟨r, h, rfl⟩

/-- Decoding fails with the rejection of a field for a reason. -/
def RefusedFor (t : MessageType) (v : Json) (field : String) (reason : Reason) : Prop :=
  ∃ r, decode (Message t) v = .error (.rejected r) ∧ r.field = field ∧ r.reason = reason

/-- Three limits are broken in one payload, and count in turn: that of the required part, which is
missing or too long, then that of custom data, then that of the message id.  An integer out of range
counts before custom data.  A limit that is broken inside the custom data of status information is
the fault of the status information.  With a wrong part besides, none of them counts. -/
theorem decode_first_fault :
    let long : String := .ofList (List.replicate 256 'v')
    let custom : Json := .object [("vendorId", .string long)]
    let transfer (vendorId : List (String × Json)) : Json :=
      .object (("customData", custom) :: ("messageId", .string long) :: vendorId)
    let onlyId : Json := .object [("messageId", .string long), ("vendorId", .string "acme")]
    let cancel : Json := .object [("customData", custom),
      ("reservationId", .number (.whole ⟨2 ^ (31 : Nat), by decide⟩))]
    let nested : Json := .object [("status", .string "Accepted"),
      ("statusInfo", .object [("customData", custom), ("reasonCode", .string "Busy")])]
    let wrong : Json :=
      .object [("customData", custom), ("status", .null), ("statusInfo", .bool true)]
    (transfer []).Canonical ∧ (transfer [("vendorId", .string long)]).Canonical ∧
      (transfer [("vendorId", .string "acme")]).Canonical ∧ onlyId.Canonical ∧ cancel.Canonical ∧
      nested.Canonical ∧ wrong.Canonical ∧
      RefusedFor ⟨.dataTransfer, .request⟩ (transfer []) "vendorId" .missing ∧
      RefusedFor ⟨.dataTransfer, .request⟩ (transfer [("vendorId", .string long)])
        "vendorId" (.tooLong 255 256) ∧
      RefusedFor ⟨.dataTransfer, .request⟩ (transfer [("vendorId", .string "acme")])
        "customData" .invalidPart ∧
      RefusedFor ⟨.dataTransfer, .request⟩ onlyId "messageId" (.tooLong 50 256) ∧
      RefusedFor ⟨.cancelReservation, .request⟩ cancel
        "reservationId" (.outOfRange (-(2 ^ (31 : Nat))) (2 ^ (31 : Nat) - 1)) ∧
      RefusedFor ⟨.cancelReservation, .response⟩ nested "statusInfo" .invalidPart ∧
      ∃ s, decode (Message ⟨.cancelReservation, .response⟩) wrong = .error (.shape s) := by
  intro long custom transfer onlyId cancel nested wrong
  have refused {t : MessageType} {v : Json} {field : String} {reason : Reason}
      (canonical : v.Canonical) (read : ∃ draft, Message.readDraft t v = .ok draft)
      (first : (broken t v).head?.map (fun r => (r.field, r.reason)) = some (field, reason)) :
      RefusedFor t v field reason := by
    obtain ⟨r, there, same⟩ := Option.map_eq_some_iff.1 first
    cases same
    have right := (exists_readDraft_iff canonical).1 read
    exact ⟨r, ((decode_error_iff canonical).2.2 r).2 ⟨right, there⟩, rfl, rfl⟩
  have member (s : String) : (Json.object [("vendorId", .string s)]).Canonical :=
    ⟨List.pairwise_singleton _ _, trivial, trivial⟩
  have none : (transfer []).Canonical := ⟨by decide, member _, trivial, trivial⟩
  have longId : (transfer [("vendorId", .string long)]).Canonical :=
    ⟨by decide, member _, trivial, trivial, trivial⟩
  have fine : (transfer [("vendorId", .string "acme")]).Canonical :=
    ⟨by decide, member _, trivial, trivial, trivial⟩
  have onlyId' : onlyId.Canonical := ⟨by decide, trivial, trivial, trivial⟩
  have cancel' : cancel.Canonical := ⟨by decide, member _, trivial, trivial⟩
  have nested' : nested.Canonical :=
    ⟨by decide, trivial, ⟨by decide, member _, trivial, trivial⟩, trivial⟩
  have wrong' : wrong.Canonical := ⟨by decide, member _, trivial, trivial, trivial⟩
  have counted : long.length = 256 := by rw [String.length_ofList, List.length_replicate]
  have broken : ¬ CustomData.Bounded ⟨long, []⟩ := by
    intro whole
    have short : long.length ≤ 255 := whole.1
    omega
  clear_value long
  refine ⟨none, longId, fine, onlyId', cancel', nested', wrong', refused none ⟨_, rfl⟩ ?_,
    refused longId ⟨_, rfl⟩ ?_, refused fine ⟨_, rfl⟩ ?_, refused onlyId' ⟨_, rfl⟩ ?_,
    refused cancel' ⟨_, rfl⟩ ?_, refused nested' ⟨_, rfl⟩ ?_, (decode_error_iff wrong').2.1.2 ?_⟩
  · rfl
  · show ((([] ++ tooLong "vendorId" 255 (some (.string long))) ++ _ ++ _).head?.map _) = _
    rw [tooLong_of_lt (by omega), counted]
    rfl
  · show ((([] ++ []) ++ invalidPart "customData" CustomData.Bounded (some ⟨long, []⟩) ++
      _).head?.map _) = _
    rw [invalidPart_of_not broken]
    rfl
  · show ((([] ++ []) ++ [] ++ tooLong "messageId" 50 (some (.string long))).head?.map _) = _
    rw [tooLong_of_lt (by omega), counted]
    rfl
  · rfl
  · show (([] ++ [] ++ invalidPart "statusInfo" StatusInfo.Bounded
      (some ⟨some ⟨long, []⟩, "Busy", Option.none⟩)).head?.map _) = _
    rw [invalidPart_of_not fun whole => broken (whole.1 _ rfl)]
    rfl
  · refine .inr ⟨("statusInfo", WrongStatusInfo), by simp [faults], .bool true, rfl, .inl trivial⟩

end ChargePoint
