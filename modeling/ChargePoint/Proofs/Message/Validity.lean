import ChargePoint.Proofs.Message.Reading

/-!
# Validity and the checks

Whether a message is valid is asked of the message as a whole; whether its contents are accepted is
decided one by one, when a message is put together from them.  The two agree, and both agree with a
description of the limits that mentions neither: the longest string of each name, and no property
with the name of the vendor id in any custom data.

## Main definitions

* `CustomData.Bounded`, `StatusInfo.Bounded`, `Message.Bounded`: the limits.
* `Message.toDraft`: the contents of a message as they would be read.
* `Message.Settled`: no data are `null`.

## Main results

* `valid_iff_accepted_iff_bounded`: validity, acceptance and the limits agree.
-/

namespace ChargePoint

/-! ### The limits -/

/-- A string of at most `limit` characters. -/
def AtMost (limit : Nat) (s : String) : Prop := s.length ≤ limit

/-- What may be absent satisfies a predicate where it is present. -/
def WherePresent {α : Type} (p : α → Prop) (x : Option α) : Prop := ∀ a ∈ x, p a

/-- **The limits of custom data**: the length of the vendor id, and the names of the properties. -/
def CustomData.Bounded (c : CustomData) : Prop :=
  AtMost 255 c.vendorId ∧ ∀ entry ∈ c.properties, entry.1 ≠ "vendorId"

/-- **The limits of status information**, its custom data included. -/
def StatusInfo.Bounded (i : StatusInfo) : Prop :=
  WherePresent CustomData.Bounded i.customData ∧ AtMost 20 i.reasonCode ∧
    WherePresent (AtMost 512) i.additionalInfo

/-- **The limits of every type of messages.** -/
def Message.Bounded : {t : MessageType} → Message t → Prop
  | ⟨.heartbeat, .request⟩, ⟨.cons customData .nil⟩ => WherePresent CustomData.Bounded customData
  | ⟨.heartbeat, .response⟩, ⟨.cons customData (.cons _ .nil)⟩ =>
    WherePresent CustomData.Bounded customData
  | ⟨.unpublishFirmware, .request⟩, ⟨.cons customData (.cons checksum .nil)⟩ =>
    WherePresent CustomData.Bounded customData ∧ AtMost 32 checksum
  | ⟨.unpublishFirmware, .response⟩, ⟨.cons customData (.cons _ .nil)⟩ =>
    WherePresent CustomData.Bounded customData
  | ⟨.cancelReservation, .request⟩, ⟨.cons customData (.cons _ .nil)⟩ =>
    WherePresent CustomData.Bounded customData
  | ⟨.cancelReservation, .response⟩, ⟨.cons customData (.cons _ (.cons statusInfo .nil))⟩ =>
    WherePresent CustomData.Bounded customData ∧ WherePresent StatusInfo.Bounded statusInfo
  | ⟨.requestStopTransaction, .request⟩, ⟨.cons customData (.cons transactionId .nil)⟩ =>
    WherePresent CustomData.Bounded customData ∧ AtMost 36 transactionId
  | ⟨.requestStopTransaction, .response⟩, ⟨.cons customData (.cons _ (.cons statusInfo .nil))⟩ =>
    WherePresent CustomData.Bounded customData ∧ WherePresent StatusInfo.Bounded statusInfo
  | ⟨.dataTransfer, .request⟩,
      ⟨.cons customData (.cons messageId (.cons _ (.cons vendorId .nil)))⟩ =>
    WherePresent CustomData.Bounded customData ∧ WherePresent (AtMost 50) messageId ∧
      AtMost 255 vendorId
  | ⟨.dataTransfer, .response⟩, ⟨.cons customData (.cons _ (.cons statusInfo (.cons _ .nil)))⟩ =>
    WherePresent CustomData.Bounded customData ∧ WherePresent StatusInfo.Bounded statusInfo

theorem CustomData.valid_iff_bounded {c : CustomData} :
    Validated.valid c = true ↔ c.Bounded := by
  rw [CustomData.valid_iff, Keyed.lookup_eq_none_iff_notMem, Bounded]
  refine and_congr_right fun _ => ?_
  constructor
  · intro absent entry member same
    exact absent (List.mem_map.2 ⟨entry, member, same⟩)
  · intro apart member
    obtain ⟨entry, he, same⟩ := List.mem_map.1 member
    exact apart entry he same

/-- Status information is valid when it keeps to the limits, those of its custom data included. -/
theorem StatusInfo.valid_iff_bounded {i : StatusInfo} :
    Validated.valid i = true ↔ i.Bounded := by
  rw [StatusInfo.valid_iff]
  refine and_congr_left fun _ => forall_congr' fun c => forall_congr' fun _ => ?_
  exact CustomData.valid_iff_bounded

/-- The limits of a kind of content. -/
def Kind.Bounded : (k : Kind) → k.Value → Prop
  | text limit => AtMost limit
  | customData => CustomData.Bounded
  | statusInfo => StatusInfo.Bounded
  | _ => fun _ => True

theorem Kind.valid_iff_bounded {k : Kind} {x : k.Value} : k.valid x = true ↔ k.Bounded x := by
  cases k with
  | text limit => exact fits_iff
  | customData => exact CustomData.valid_iff_bounded
  | statusInfo => exact StatusInfo.valid_iff_bounded
  | _ => exact iff_of_true rfl trivial

theorem Field.valid_iff_bounded {f : Field} {content : f.Content} :
    f.valid content = true ↔ WherePresent f.kind.Bounded (f.value? content) := by
  unfold Field.valid WherePresent
  cases f.value? content with
  | none => simp
  | some value => simp [Kind.valid_iff_bounded]

/-- Of the fields in the catalog only the data of a transfer hold data. -/
theorem MessageType.eq_data_of_kind {t : MessageType} {f : Field} (member : f ∈ t.fields)
    (h : f.kind = .data) : f = MessageType.data := by
  have all : ∀ f ∈ t.fields, f.kind = .data → f = MessageType.data := by
    obtain ⟨action, direction⟩ := t
    cases action <;> cases direction <;> decide
  exact all f member h

namespace Message

variable {t : MessageType}

/-- **Validity is keeping to the limits.** -/
theorem valid_iff_bounded {m : Message t} : Validated.valid m = true ↔ m.Bounded := by
  have each : Validated.valid m = true ↔
      m.contents.Each fun f content => WherePresent f.kind.Bounded (f.value? content) := by
    rw [valid_iff, Record.each_iff]
    exact forall_congr' fun f => forall_congr' fun slot => Field.valid_iff_bounded
  -- fields of some kinds have no limit, and the description passes over them
  have free {α : Type} {x : Option α} : WherePresent (fun _ => True) x := fun _ _ => trivial
  have there {α : Type} {p : α → Prop} {a : α} : WherePresent p (some a) ↔ p a := by
    simp [WherePresent]
  rw [each]
  match t, m with
  | ⟨.heartbeat, .request⟩, ⟨.cons _ .nil⟩ => exact and_iff_left trivial
  | ⟨.heartbeat, .response⟩, ⟨.cons _ (.cons _ .nil)⟩ => exact and_iff_left ⟨free, trivial⟩
  | ⟨.unpublishFirmware, .request⟩, ⟨.cons _ (.cons _ .nil)⟩ =>
    exact and_congr_right fun _ => (and_iff_left trivial).trans there
  | ⟨.unpublishFirmware, .response⟩, ⟨.cons _ (.cons _ .nil)⟩ =>
    exact and_iff_left ⟨free, trivial⟩
  | ⟨.cancelReservation, .request⟩, ⟨.cons _ (.cons _ .nil)⟩ =>
    exact and_iff_left ⟨free, trivial⟩
  | ⟨.cancelReservation, .response⟩, ⟨.cons _ (.cons _ (.cons _ .nil))⟩ =>
    exact and_congr_right fun _ => (and_iff_right free).trans (and_iff_left trivial)
  | ⟨.requestStopTransaction, .request⟩, ⟨.cons _ (.cons _ .nil)⟩ =>
    exact and_congr_right fun _ => (and_iff_left trivial).trans there
  | ⟨.requestStopTransaction, .response⟩, ⟨.cons _ (.cons _ (.cons _ .nil))⟩ =>
    exact and_congr_right fun _ => (and_iff_right free).trans (and_iff_left trivial)
  | ⟨.dataTransfer, .request⟩, ⟨.cons _ (.cons _ (.cons _ (.cons _ .nil)))⟩ =>
    exact and_congr_right fun _ => and_congr_right fun _ =>
      (and_iff_right free).trans ((and_iff_left trivial).trans there)
  | ⟨.dataTransfer, .response⟩, ⟨.cons _ (.cons _ (.cons _ (.cons _ .nil)))⟩ =>
    exact and_congr_right fun _ => (and_iff_right free).trans (and_iff_left ⟨free, trivial⟩)

/-! ### Putting together -/

/-- **The contents of a message as they would be read.** -/
def toDraft (m : Message t) : Draft t :=
  m.contents.map fun f content => (f.value? content).map f.kind.widen

/-- No data of a message are `null`: a check would leave every content as it is. -/
def Settled (m : Message t) : Prop :=
  ∀ f (slot : Slot t.fields f), f.settle (m.get slot) = m.get slot

/-- Only the data of a transfer can be `null`. -/
theorem isNull_eq_false {m : Message t}
    (present : ∀ slot : Slot t.fields MessageType.data, m.get slot ≠ some .null) {f : Field}
    {slot : Slot t.fields f} {value : f.kind.Value} (there : f.value? (m.get slot) = some value) :
    f.kind.isNull value = false := by
  by_cases ofData : f.kind = .data
  · obtain rfl := MessageType.eq_data_of_kind slot.mem ofData
    rw [Bool.eq_false_iff]
    intro null
    obtain rfl : value = VendorValue.null := VendorValue.isNull_iff.1 null
    exact present slot there
  · exact Kind.isNull_of_ne_data ofData

/-- Only the field for data can hold what a check would drop, and that is `null`. -/
theorem settled_iff {m : Message t} :
    m.Settled ↔ ∀ slot : Slot t.fields MessageType.data, m.get slot ≠ some .null := by
  constructor
  · intro settled slot null
    have kept := settled _ slot
    rw [null] at kept
    cases kept
  · intro present f slot
    exact Field.settle_eq_self fun value there => isNull_eq_false present there

/-- **The checking path**: putting a message together from the contents of another succeeds when
that is valid, and gives the same message. -/
theorem ofDraft_toDraft_iff {m n : Message t} (settled : m.Settled) :
    ofDraft m.toDraft = .ok n ↔ n = m ∧ Validated.valid m = true := by
  have each (f : Field) (slot : Slot t.fields f) :
      f.commit (m.toDraft.get slot) = .ok (n.get slot) ↔
        m.get slot = n.get slot ∧ f.valid (n.get slot) = true := by
    have held : m.toDraft.get slot = (f.value? (m.get slot)).map f.kind.widen :=
      Record.get_map _ _ _
    rw [held, Field.commit_widen_iff, settled f slot]
  rw [ofDraft_eq_ok_iff, valid_iff]
  simp only [each]
  constructor
  · intro h
    have same : m = n := congrArg Message.mk (Record.ext fun f slot => (h f slot).1)
    subst same
    exact ⟨rfl, fun f slot => (h f slot).2⟩
  · rintro ⟨rfl, valid⟩ f slot
    exact ⟨rfl, valid f slot⟩

end Message

namespace StatusInfo

variable {reasonCode : String} {additionalInfo : Option String} {customData : Option CustomData}

theorem new_eq_ok_iff {i : StatusInfo} :
    new reasonCode = .ok i ↔
      i = ⟨none, reasonCode, none⟩ ∧ reasonCode.length ≤ reasonCodeLimit := by
  simp only [new, bind_eq_ok_iff, pure_eq_ok_iff, acceptText_eq_ok_iff, fits_iff]
  constructor
  · rintro ⟨_, ⟨rfl, short⟩, rfl⟩
    exact ⟨rfl, short⟩
  · rintro ⟨rfl, short⟩
    exact ⟨_, ⟨rfl, short⟩, rfl⟩

theorem setAdditionalInfo_eq_ok_iff {i j : StatusInfo} :
    i.setAdditionalInfo additionalInfo = .ok j ↔
      j = { i with additionalInfo } ∧ ∀ s ∈ additionalInfo, s.length ≤ additionalInfoLimit := by
  have passes (s t : String) : acceptText "additionalInfo" additionalInfoLimit s = .ok t ↔
      s = t ∧ fits additionalInfoLimit t = true := acceptText_eq_ok_iff
  simp only [setAdditionalInfo, bind_eq_ok_iff, pure_eq_ok_iff, ifPresent_eq_ok_iff passes,
    Option.all_eq_true, fits_iff]
  constructor
  · rintro ⟨_, ⟨rfl, short⟩, rfl⟩
    exact ⟨rfl, short⟩
  · rintro ⟨rfl, short⟩
    exact ⟨_, ⟨rfl, short⟩, rfl⟩

theorem setCustomData_eq_ok_iff {i j : StatusInfo} :
    i.setCustomData customData = .ok j ↔
      j = { i with customData } ∧ ∀ c ∈ customData, Validated.valid c = true := by
  simp only [setCustomData, bind_eq_ok_iff, pure_eq_ok_iff, acceptPart_eq_ok_iff,
    Option.all_eq_true]
  constructor
  · rintro ⟨_, ⟨rfl, whole⟩, rfl⟩
    exact ⟨rfl, whole⟩
  · rintro ⟨rfl, whole⟩
    exact ⟨_, ⟨rfl, whole⟩, rfl⟩

/-- **Status information built up step by step**, further text first. -/
theorem build_textFirst_iff {i : StatusInfo} :
    (do (← (← new reasonCode).setAdditionalInfo additionalInfo).setCustomData customData) = .ok i ↔
      i = ⟨customData, reasonCode, additionalInfo⟩ ∧
        Validated.valid (StatusInfo.mk customData reasonCode additionalInfo) = true := by
  simp only [bind_eq_ok_iff, new_eq_ok_iff, setAdditionalInfo_eq_ok_iff, setCustomData_eq_ok_iff,
    valid_iff]
  constructor
  · rintro ⟨_, ⟨rfl, short⟩, _, ⟨rfl, limited⟩, rfl, whole⟩
    exact ⟨rfl, whole, short, limited⟩
  · rintro ⟨rfl, whole, short, limited⟩
    exact ⟨_, ⟨rfl, short⟩, _, ⟨rfl, limited⟩, rfl, whole⟩

/-- **Status information built up step by step**, custom data first. -/
theorem build_customDataFirst_iff {i : StatusInfo} :
    (do (← (← new reasonCode).setCustomData customData).setAdditionalInfo additionalInfo) = .ok i ↔
      i = ⟨customData, reasonCode, additionalInfo⟩ ∧
        Validated.valid (StatusInfo.mk customData reasonCode additionalInfo) = true := by
  simp only [bind_eq_ok_iff, new_eq_ok_iff, setAdditionalInfo_eq_ok_iff, setCustomData_eq_ok_iff,
    valid_iff]
  constructor
  · rintro ⟨_, ⟨rfl, short⟩, _, ⟨rfl, whole⟩, rfl, limited⟩
    exact ⟨rfl, whole, short, limited⟩
  · rintro ⟨rfl, whole, short, limited⟩
    exact ⟨_, ⟨rfl, short⟩, _, ⟨rfl, whole⟩, rfl, limited⟩

end StatusInfo

/-- **The checking path and validity agree**, and both agree with the limits:

* putting a message together from given contents, none of its data `null`, succeeds when the message
  of these contents is valid, and gives that message;
* building up status information succeeds, in either order, when the status information of the same
  parts is valid, and gives that;
* either is valid when it keeps to its limits. -/
theorem valid_iff_accepted_iff_bounded :
    (∀ (t : MessageType) (m : Message t),
      (∀ slot : Slot t.fields MessageType.data, m.get slot ≠ some .null) →
        (∀ n, Message.ofDraft m.toDraft = .ok n ↔ n = m ∧ Validated.valid m = true) ∧
          (Validated.valid m = true ↔ m.Bounded)) ∧
      ∀ i : StatusInfo,
        (∀ j, (do
            let built ← StatusInfo.new i.reasonCode
            let built ← built.setAdditionalInfo i.additionalInfo
            built.setCustomData i.customData) = .ok j ↔ j = i ∧ Validated.valid i = true) ∧
        (∀ j, (do
            let built ← StatusInfo.new i.reasonCode
            let built ← built.setCustomData i.customData
            built.setAdditionalInfo i.additionalInfo) = .ok j ↔ j = i ∧ Validated.valid i = true) ∧
        (Validated.valid i = true ↔ i.Bounded) := by
  constructor
  · intro t m present
    have settled := Message.settled_iff.2 present
    exact ⟨fun n => Message.ofDraft_toDraft_iff settled, Message.valid_iff_bounded⟩
  · intro i
    exact ⟨fun j => StatusInfo.build_textFirst_iff, fun j => StatusInfo.build_customDataFirst_iff,
      StatusInfo.valid_iff_bounded⟩

/-- A property with the name of the vendor id, in the custom data of the status information, keeps a
message from being accepted. -/
theorem not_accepted_of_inner_property :
    let c : CustomData := ⟨"acme", [("vendorId", .string "other")]⟩
    let m : Message ⟨.dataTransfer, .response⟩ :=
      ⟨.cons none (.cons ⟨"Accepted", by decide⟩ (.cons (some ⟨some c, "Busy", none⟩)
        (.cons (some (.bool true)) .nil)))⟩
    (∀ slot : Slot (MessageType.fields ⟨.dataTransfer, .response⟩) MessageType.data,
      m.get slot ≠ some .null) ∧ ∀ n, Message.ofDraft m.toDraft ≠ .ok n := by
  intro c m
  have present (slot : Slot (MessageType.fields ⟨.dataTransfer, .response⟩) MessageType.data) :
      m.get slot ≠ some .null := by
    have distinct := MessageType.labels_nodup ⟨.dataTransfer, .response⟩
    rw [Slot.unique distinct slot (.next (.next (.next .first)))]
    exact nofun
  obtain ⟨accepted, bounded⟩ := valid_iff_accepted_iff_bounded.1 _ m present
  refine ⟨present, fun n h => ?_⟩
  obtain ⟨-, inner⟩ := bounded.1 ((accepted n).1 h).2
  obtain ⟨whole, -⟩ := inner _ rfl
  obtain ⟨-, apart⟩ := whole c rfl
  exact apart _ List.mem_cons_self rfl

end ChargePoint
