import ChargePoint.Proofs.Message.Reading

/-!
# The grammar of payloads

The payloads of the ten types, written down type by type: which names a payload may list, in which
order an array gives them, what stands under each, and how long it may be.  The grammar is about
JSON values alone and says for each of them which message it stands for, if any.

A value lists its parts by name, as an object, or in place, as an array of all of them.  A part that
is `null` counts as absent, and absent parts are allowed where the message can do without.

## Main definitions

* `Grammar.Listing`: a value that lists parts of given names.
* `Grammar.IsText`, `IsStatus`, `IsInteger`, `IsTime`, `IsCustomData`, `IsStatusInfo`, `IsData`: the
  parts.
* `Grammar.Payload`: the payloads of every type of messages.

## Main results

* `decode_eq_ok_iff`: decoding succeeds on the payloads of the grammar, with the message that the
  payload stands for, and fails on every other value.
-/

namespace ChargePoint

namespace Grammar

/-! ### Lists of parts -/

/-- A value lists no other names: an object with none but these, or an array with one item for each
of them. -/
def Lists (names : List String) : Json → Prop
  | .object members => ∀ name ∈ members.map Prod.fst, name ∈ names
  | .array items => items.length = names.length
  | _ => False

instance (names : List String) : (v : Json) → Decidable (Lists names v)
  | .object members => inferInstanceAs (Decidable (∀ name ∈ members.map Prod.fst, name ∈ names))
  | .array items => inferInstanceAs (Decidable (items.length = names.length))
  | .null => .isFalse id
  | .bool _ => .isFalse id
  | .number _ => .isFalse id
  | .string _ => .isFalse id

/-- What a value lists under a name, or in the place of it; `null` counts as nothing. -/
def part (names : List String) (v : Json) (name : String) : Option Json :=
  Option.filter (fun w => !w.isNull)
    (match v with
    | .object members => members.lookup name
    | .array items => items[names.idxOf name]?
    | _ => none)

/-- **A value that lists parts** of the given names, with what stands under them. -/
def Listing (names : List String) (v : Json) (parts : (String → Option Json) → Prop) : Prop :=
  Lists names v ∧ parts (part names v)

/-! ### Parts -/

/-- A string of at most `limit` characters. -/
def IsText (limit : Nat) (w : Json) (s : String) : Prop := w = .string s ∧ s.length ≤ limit

/-- One of the spellings, as a string or as the only name in an object, over a `null`. -/
def IsStatus {v : Vocabulary} (w : Json) (s : Status v) : Prop :=
  w = .string s.spelling ∨ w = .object [(s.spelling, .null)]

/-- An integer of 32 bits, never a float. -/
def IsInteger (w : Json) (n : Int32) : Prop :=
  ∃ whole : Whole, w = .number (.whole whole) ∧
    -(2 ^ (31 : Nat)) ≤ whole.value ∧ whole.value ≤ 2 ^ (31 : Nat) - 1 ∧ n = Int32.ofInt whole.value

/-- A string that writes an instant. -/
def IsTime (w : Json) (t : Instant) : Prop := ∃ text, w = .string text ∧ Instant.read text = .ok t

/-- An object with a string of at most `255` characters for the vendor id; its other members are the
properties, whatever they hold. -/
def IsCustomData (w : Json) (c : CustomData) : Prop :=
  ∃ members, w = .object members ∧ members.lookup "vendorId" = some (.string c.vendorId) ∧
    c.vendorId.length ≤ 255 ∧
    c.properties = Keyed.mapValues VendorValue.ofJson (Keyed.erase "vendorId" members)

/-- A list of the three parts of status information, of which only the reason code has to be there;
the strings have at most `20` and `512` characters. -/
def IsStatusInfo (w : Json) (i : StatusInfo) : Prop :=
  Listing ["customData", "reasonCode", "additionalInfo"] w fun part =>
    Option.Rel IsCustomData (part "customData") i.customData ∧
      Option.Rel (IsText 20) (part "reasonCode") (some i.reasonCode) ∧
      Option.Rel (IsText 512) (part "additionalInfo") i.additionalInfo

/-- Any value. -/
def IsData (w : Json) (d : VendorValue) : Prop := d = VendorValue.ofJson w

/-! ### Payloads -/

/-- **The payloads of every type of messages**, and the messages they stand for. -/
def Payload : (t : MessageType) → Json → Message t → Prop
  | ⟨.heartbeat, .request⟩, v, ⟨.cons customData .nil⟩ =>
    Listing ["customData"] v fun part =>
      Option.Rel IsCustomData (part "customData") customData
  | ⟨.heartbeat, .response⟩, v, ⟨.cons customData (.cons currentTime .nil)⟩ =>
    Listing ["customData", "currentTime"] v fun part =>
      Option.Rel IsCustomData (part "customData") customData ∧
        Option.Rel IsTime (part "currentTime") (some currentTime)
  | ⟨.unpublishFirmware, .request⟩, v, ⟨.cons customData (.cons checksum .nil)⟩ =>
    Listing ["customData", "checksum"] v fun part =>
      Option.Rel IsCustomData (part "customData") customData ∧
        Option.Rel (IsText 32) (part "checksum") (some checksum)
  | ⟨.unpublishFirmware, .response⟩, v, ⟨.cons customData (.cons status .nil)⟩ =>
    Listing ["customData", "status"] v fun part =>
      Option.Rel IsCustomData (part "customData") customData ∧
        Option.Rel IsStatus (part "status") (some status)
  | ⟨.cancelReservation, .request⟩, v, ⟨.cons customData (.cons reservationId .nil)⟩ =>
    Listing ["customData", "reservationId"] v fun part =>
      Option.Rel IsCustomData (part "customData") customData ∧
        Option.Rel IsInteger (part "reservationId") (some reservationId)
  | ⟨.cancelReservation, .response⟩, v, ⟨.cons customData (.cons status (.cons statusInfo .nil))⟩ =>
    Listing ["customData", "status", "statusInfo"] v fun part =>
      Option.Rel IsCustomData (part "customData") customData ∧
        Option.Rel IsStatus (part "status") (some status) ∧
        Option.Rel IsStatusInfo (part "statusInfo") statusInfo
  | ⟨.requestStopTransaction, .request⟩, v, ⟨.cons customData (.cons transactionId .nil)⟩ =>
    Listing ["customData", "transactionId"] v fun part =>
      Option.Rel IsCustomData (part "customData") customData ∧
        Option.Rel (IsText 36) (part "transactionId") (some transactionId)
  | ⟨.requestStopTransaction, .response⟩, v,
      ⟨.cons customData (.cons status (.cons statusInfo .nil))⟩ =>
    Listing ["customData", "status", "statusInfo"] v fun part =>
      Option.Rel IsCustomData (part "customData") customData ∧
        Option.Rel IsStatus (part "status") (some status) ∧
        Option.Rel IsStatusInfo (part "statusInfo") statusInfo
  | ⟨.dataTransfer, .request⟩, v,
      ⟨.cons customData (.cons messageId (.cons data (.cons vendorId .nil)))⟩ =>
    Listing ["customData", "messageId", "data", "vendorId"] v fun part =>
      Option.Rel IsCustomData (part "customData") customData ∧
        Option.Rel (IsText 50) (part "messageId") messageId ∧
        Option.Rel IsData (part "data") data ∧
        Option.Rel (IsText 255) (part "vendorId") (some vendorId)
  | ⟨.dataTransfer, .response⟩, v,
      ⟨.cons customData (.cons status (.cons statusInfo (.cons data .nil)))⟩ =>
    Listing ["customData", "status", "statusInfo", "data"] v fun part =>
      Option.Rel IsCustomData (part "customData") customData ∧
        Option.Rel IsStatus (part "status") (some status) ∧
        Option.Rel IsStatusInfo (part "statusInfo") statusInfo ∧
        Option.Rel IsData (part "data") data

/-! ### Fields and the grammar -/

/-- What a structure is given in a place is what is listed under the name of the field. -/
theorem part_eq {ι : Type} {s : Structure ι} (distinct : s.labels.Nodup) (v : Json) {i : ι}
    (slot : Slot s.fields i) : s.part v slot = part s.labels v (s.label i) := by
  cases v with
  | array items =>
    have place : s.labels.idxOf (s.label i) = slot.position := slot.idxOf_label distinct
    unfold part
    rw [place]
    rfl
  | _ => rfl

/-- To list no other names is to have the form of the structure. -/
theorem lists_iff {ι : Type} (s : Structure ι) (v : Json) : Lists s.labels v ↔ s.Fits v := by
  cases v with
  | array items =>
    unfold Lists Structure.Fits Structure.labels
    rw [List.length_map]
  | _ => exact Iff.rfl

/-- The part of the grammar that a kind of content is. -/
def IsContent : (k : Kind) → Json → k.Value → Prop
  | .text limit => IsText limit
  | .status _ => IsStatus
  | .integer => IsInteger
  | .instant => IsTime
  | .customData => IsCustomData
  | .statusInfo => IsStatusInfo
  | .data => IsData

/-- The grammar of custom data holds the vendor id to its limit, which is the one thing that
validity adds. -/
theorem isCustomData_iff {w : Json} {c : CustomData} :
    IsCustomData w c ↔ c.ReadFrom w ∧ Validated.valid c = true := by
  constructor
  · rintro ⟨members, hw, named, short, properties⟩
    have read : c.ReadFrom w := ⟨members, hw, named, properties⟩
    exact ⟨read, read.valid_iff.2 short⟩
  · rintro ⟨read, valid⟩
    have short := read.valid_iff.1 valid
    obtain ⟨members, hw, named, properties⟩ := read
    exact ⟨members, hw, named, short, properties⟩

/-- What status information is read from, as a list of its parts. -/
theorem readFrom_iff_listing {w : Json} {i : StatusInfo} : i.ReadFrom w ↔
    Listing ["customData", "reasonCode", "additionalInfo"] w fun part =>
      Option.Rel CustomData.ReadFrom (part "customData") i.customData ∧
        part "reasonCode" = some (.string i.reasonCode) ∧
        part "additionalInfo" = i.additionalInfo.map Json.string := by
  rw [StatusInfo.readFrom_iff_part, ← lists_iff, part_eq StatusInfo.labels_nodup,
    part_eq StatusInfo.labels_nodup, part_eq StatusInfo.labels_nodup]
  rfl

/-- Part by part: the grammar has the limits inside, and validity has them apart. -/
theorem isStatusInfo_iff {w : Json} {i : StatusInfo} :
    IsStatusInfo w i ↔ i.ReadFrom w ∧ Validated.valid i = true := by
  have customData {given : Option Json} : Option.Rel IsCustomData given i.customData ↔
      Option.Rel CustomData.ReadFrom given i.customData ∧
        ∀ c ∈ i.customData, Validated.valid c = true :=
    (rel_congr fun _ _ _ => isCustomData_iff).trans rel_and_iff
  have reasonCode {given : Option Json} : Option.Rel (IsText 20) given (some i.reasonCode) ↔
      given = some (.string i.reasonCode) ∧ i.reasonCode.length ≤ 20 :=
    rel_and_iff.trans (and_congr rel_eq_map_iff (by simp))
  have additionalInfo {given : Option Json} : Option.Rel (IsText 512) given i.additionalInfo ↔
      given = i.additionalInfo.map Json.string ∧ ∀ s ∈ i.additionalInfo, s.length ≤ 512 :=
    rel_and_iff.trans (and_congr_left fun _ => rel_eq_map_iff)
  rw [IsStatusInfo, readFrom_iff_listing, StatusInfo.valid_iff, Listing, Listing, customData,
    reasonCode, additionalInfo]
  constructor
  · rintro ⟨lists, ⟨first, whole⟩, ⟨second, short⟩, third, limited⟩
    exact ⟨⟨lists, first, second, third⟩, whole, short, limited⟩
  · rintro ⟨⟨lists, first, second, third⟩, whole, short, limited⟩
    exact ⟨lists, ⟨first, whole⟩, ⟨second, short⟩, third, limited⟩

/-- An integer of 32 bits is the one of its value. -/
theorem isInteger_iff {w : Json} {n : Int32} :
    IsInteger w n ↔ ∃ whole : Whole, w = .number (.whole whole) ∧ whole.value = n.toInt := by
  refine exists_congr fun whole => and_congr_right fun _ => ?_
  constructor
  · rintro ⟨least, greatest, rfl⟩
    rw [Int32.toInt_ofInt_of_le least (by omega)]
  · intro h
    have least := n.le_toInt
    have greatest := n.toInt_lt
    rw [h, Int32.ofInt_toInt]
    exact ⟨least, by omega, rfl⟩

/-- **A content is part of the grammar** where it is read from the value and valid. -/
theorem isContent_iff {k : Kind} {w : Json} {x : k.Value} :
    IsContent k w x ↔ k.ReadFrom w x ∧ k.valid x = true := by
  cases k with
  | text limit => exact and_congr_right fun _ => fits_iff.symm
  | integer => exact isInteger_iff.trans (and_iff_left rfl).symm
  | customData => exact isCustomData_iff
  | statusInfo => exact isStatusInfo_iff
  | status vocabulary => exact (and_iff_left rfl).symm
  | instant => exact (and_iff_left rfl).symm
  | data => exact (and_iff_left rfl).symm

/-- A field is read and valid where its content, if there is any, is part of the grammar. -/
theorem rel_isContent_iff {f : Field} {given : Option Json} {content : f.Content} :
    Option.Rel (IsContent f.kind) given (f.value? content) ↔
      Option.Rel f.kind.ReadFrom given (f.value? content) ∧ f.valid content = true := by
  unfold Field.valid
  cases f.value? content with
  | none => simp [rel_none_iff]
  | some value =>
    simp only [rel_some_iff, isContent_iff]
    grind

/-- The contents of fields are what a list of parts gives for them. -/
def Contents (part : String → Option Json) {fields : List Field}
    (contents : Record Field.Content fields) : Prop :=
  contents.Each fun f content => Option.Rel (IsContent f.kind) (part f.label) (f.value? content)

/-- **The grammar of a type is that of its fields**, in order. -/
theorem payload_iff {t : MessageType} {v : Json} {m : Message t} :
    Payload t v m ↔ Listing t.form.labels v fun part => Contents part m.contents := by
  -- the fields of a list are followed by the end of the list, those of the grammar by nothing
  have one {p : Prop} : p ↔ p ∧ True := (and_iff_left trivial).symm
  have two {p q : Prop} : p ∧ q ↔ p ∧ q ∧ True := and_congr_right fun _ => one
  have three {p q r : Prop} : p ∧ q ∧ r ↔ p ∧ q ∧ r ∧ True := and_congr_right fun _ => two
  have four {p q r s : Prop} : p ∧ q ∧ r ∧ s ↔ p ∧ q ∧ r ∧ s ∧ True :=
    and_congr_right fun _ => three
  match t, m with
  | ⟨.heartbeat, .request⟩, ⟨.cons _ .nil⟩ => exact and_congr_right fun _ => one
  | ⟨.heartbeat, .response⟩, ⟨.cons _ (.cons _ .nil)⟩ => exact and_congr_right fun _ => two
  | ⟨.unpublishFirmware, .request⟩, ⟨.cons _ (.cons _ .nil)⟩ => exact and_congr_right fun _ => two
  | ⟨.unpublishFirmware, .response⟩, ⟨.cons _ (.cons _ .nil)⟩ => exact and_congr_right fun _ => two
  | ⟨.cancelReservation, .request⟩, ⟨.cons _ (.cons _ .nil)⟩ => exact and_congr_right fun _ => two
  | ⟨.cancelReservation, .response⟩, ⟨.cons _ (.cons _ (.cons _ .nil))⟩ =>
    exact and_congr_right fun _ => three
  | ⟨.requestStopTransaction, .request⟩, ⟨.cons _ (.cons _ .nil)⟩ =>
    exact and_congr_right fun _ => two
  | ⟨.requestStopTransaction, .response⟩, ⟨.cons _ (.cons _ (.cons _ .nil))⟩ =>
    exact and_congr_right fun _ => three
  | ⟨.dataTransfer, .request⟩, ⟨.cons _ (.cons _ (.cons _ (.cons _ .nil)))⟩ =>
    exact and_congr_right fun _ => four
  | ⟨.dataTransfer, .response⟩, ⟨.cons _ (.cons _ (.cons _ (.cons _ .nil)))⟩ =>
    exact and_congr_right fun _ => four

end Grammar

open Grammar

/-- **Exact acceptance**: a JSON value is decoded to a message of a type exactly when it is a
payload that stands for that message; so it is refused exactly when it stands for none. -/
theorem decode_eq_ok_iff {t : MessageType} {v : Json} (canonical : v.Canonical) {m : Message t} :
    decode (Message t) v = .ok m ↔ Payload t v m := by
  have parts : Contents (part t.form.labels v) m.contents ↔
      (∀ f (slot : Slot t.fields f),
        Option.Rel f.kind.ReadFrom (t.form.part v slot) (f.value? (m.get slot))) ∧
      ∀ f (slot : Slot t.fields f), f.valid (m.get slot) = true := by
    rw [Contents, Record.each_iff, ← forall_and]
    refine forall_congr' fun f => ?_
    rw [← forall_and]
    refine forall_congr' fun slot => ?_
    rw [show t.form.part v slot = _ from part_eq t.labels_nodup v slot]
    exact rel_isContent_iff
  rw [Message.decode_iff canonical, payload_iff, Message.valid_iff, Message.ReadFrom, and_assoc]
  exact and_congr (lists_iff t.form v).symm parts.symm

/-- An array is decoded by position, and `null` in it as absent. -/
theorem decode_positional :
    (Json.array [.null, .string "TX-1"]).Canonical ∧
      decode (Message ⟨.requestStopTransaction, .request⟩) (.array [.null, .string "TX-1"]) =
        .ok ⟨.cons none (.cons "TX-1" .nil)⟩ := by
  have canonical : (Json.array [.null, .string "TX-1"]).Canonical := ⟨trivial, trivial, trivial⟩
  refine ⟨canonical, (decode_eq_ok_iff canonical).2 ⟨rfl, .none, .some ⟨rfl, by decide⟩⟩⟩

/-- The limits inside status information count: with a reason code of `21` characters a payload that
is otherwise in order is refused. -/
theorem decode_long_reasonCode :
    let reasonCode := "012345678901234567890"
    let info : Json := .object [("reasonCode", .string reasonCode)]
    let v : Json := .object [("status", .string "Accepted"), ("statusInfo", info)]
    v.Canonical ∧
      Listing ["customData", "status", "statusInfo"] v (fun part =>
        part "customData" = none ∧ part "status" = some (.string "Accepted") ∧
          part "statusInfo" = some info) ∧
      Listing ["customData", "reasonCode", "additionalInfo"] info (fun part =>
        part "customData" = none ∧ part "reasonCode" = some (.string reasonCode) ∧
          part "additionalInfo" = none) ∧
      ∀ m, decode (Message ⟨.cancelReservation, .response⟩) v ≠ .ok m := by
  intro reasonCode info v
  have canonical : v.Canonical :=
    ⟨by decide, trivial, ⟨by decide, trivial, trivial⟩, trivial⟩
  refine ⟨canonical, ⟨by decide, rfl, rfl, rfl⟩, ⟨by decide, rfl, rfl, rfl⟩, fun m decoded => ?_⟩
  obtain ⟨⟨-, read⟩, valid⟩ := (Message.decode_iff canonical).1 decoded
  let slot : Slot (MessageType.fields ⟨.cancelReservation, .response⟩) MessageType.statusInfo :=
    .next (.next .first)
  have read : Option.Rel StatusInfo.ReadFrom (some info) (m.get slot) := read _ slot
  have valid : Field.valid MessageType.statusInfo (m.get slot) = true :=
    Message.valid_iff.1 valid _ slot
  generalize m.get slot = content at read valid
  cases read with
  | @some _ i read =>
    obtain ⟨-, short, -⟩ := StatusInfo.valid_iff.1 valid
    obtain ⟨-, -, named, -⟩ := read
    have same : reasonCode = i.reasonCode := Json.string.inj (Option.some.inj named)
    rw [← same] at short
    exact absurd short (by decide)

end ChargePoint
