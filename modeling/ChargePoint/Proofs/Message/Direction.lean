import ChargePoint.Proofs.Message.Reading

/-!
# The direction of a payload

The two halves of an operation are read by readers that know nothing of each other.  An object is a
payload of at most one of them all the same: a response has to have a name that the request of its
operation does not know, and a request refuses every name that it does not know.  So one name tells
which half an object can be.

Of arrays, which give the fields by their places, this does not hold.

## Main definitions

* `Action.responseLabel`: the name that tells.

## Main results

* `Message.listed_of_decode`, `Message.required_of_decode`: what decoding says of the names in an
  object.
* `direction_of_decode`: the name tells the direction, and no object has both.
-/

namespace ChargePoint

/-! ### Names that were read -/

/-- A required field holds a content. -/
theorem Field.isSome_value? {f : Field} (required : f.presence = .required) (x : f.Content) :
    (f.value? x).isSome = true := by
  match f, required with
  | ⟨_, _, .required⟩, _ => rfl

namespace Message

variable {t : MessageType} {members : List (String × Json)} {m : Message t}

/-- **A message knows the names** in the object that it was decoded from. -/
theorem listed_of_decode (h : decode (Message t) (.object members) = .ok m) :
    ∀ name ∈ members.map Prod.fst, name ∈ t.form.labels := by
  obtain ⟨draft, hd, -⟩ := bind_eq_ok_iff.1 h
  obtain ⟨read, hr, -⟩ := bind_eq_ok_iff.1 (mapError_eq_ok_iff.1 hd)
  exact (Structure.names_of_ofJson t.labels_nodup hr).1

/-- **A message found its required fields** in the object that it was decoded from. -/
theorem required_of_decode (h : decode (Message t) (.object members) = .ok m) {f : Field}
    (member : f ∈ t.fields) (required : f.presence = .required) :
    f.label ∈ members.map Prod.fst := by
  obtain ⟨draft, hd, made⟩ := bind_eq_ok_iff.1 h
  obtain ⟨read, hr, rfl⟩ := map_eq_ok_iff.1 (mapError_eq_ok_iff.1 hd)
  obtain ⟨slot⟩ := Slot.nonempty_of_mem member
  refine (Structure.names_of_ofJson t.labels_nodup hr).2 f slot ?_
  obtain ⟨x, raw, -⟩ :=
    Field.commit_eq_ok_iff.1 (ofDraft_eq_ok_iff.1 (mapError_eq_ok_iff.1 made) f slot)
  have held : (read.get slot).join = (f.value? x).map f.kind.widen :=
    (Record.get_map (fun _ content => content.join) read slot).symm.trans raw
  obtain ⟨value, there⟩ := Option.isSome_iff_exists.1 (Field.isSome_value? required x)
  rw [there, Option.map_some] at held
  exact Option.isSome_of_mem (Option.join_eq_some_iff.1 held)

end Message

/-! ### Directions -/

namespace Action

/-- **The name that tells the halves of an operation apart**: a response has to have it, and a
request has no such field. -/
def responseLabel : Action → String
  | heartbeat => "currentTime"
  | _ => "status"

theorem responseLabel_required (action : Action) :
    ∃ f ∈ MessageType.fields ⟨action, .response⟩,
      f.presence = .required ∧ f.label = action.responseLabel := by
  cases action <;> decide

theorem responseLabel_not_mem (action : Action) :
    action.responseLabel ∉ (MessageType.form ⟨action, .request⟩).labels := by
  cases action <;> decide

end Action

/-- **A payload has at most one direction.**  Whatever direction an object is decoded in is the one
that its names tell, and it is not decoded in both. -/
theorem direction_of_decode (action : Action) (members : List (String × Json)) :
    (∀ direction m, TypedMessage.decode action direction (.object members) = .ok m →
      (direction = .response ↔ action.responseLabel ∈ members.map Prod.fst)) ∧
    ¬∃ m n, TypedMessage.decode action .request (.object members) = .ok m ∧
      TypedMessage.decode action .response (.object members) = .ok n := by
  have request {m : TypedMessage}
      (h : TypedMessage.decode action .request (.object members) = .ok m) :
      action.responseLabel ∉ members.map Prod.fst := by
    obtain ⟨m, hm, -⟩ := bind_eq_ok_iff.1 h
    intro there
    exact action.responseLabel_not_mem (Message.listed_of_decode hm _ there)
  have response {n : TypedMessage}
      (h : TypedMessage.decode action .response (.object members) = .ok n) :
      action.responseLabel ∈ members.map Prod.fst := by
    obtain ⟨n, hn, -⟩ := bind_eq_ok_iff.1 h
    obtain ⟨f, member, required, label⟩ := action.responseLabel_required
    rw [← label]
    exact Message.required_of_decode hn member required
  refine ⟨fun direction m h => ?_, ?_⟩
  · cases direction with
    | request => exact iff_of_false nofun (request h)
    | response => exact iff_of_true rfl (response h)
  · rintro ⟨m, n, hm, hn⟩
    exact request hm (response hn)

/-- A request to unpublish firmware has no status, so it is no response. -/
theorem direction_of_decode_checksum :
    let members : List (String × Json) := [("checksum", .string "Unpublished")]
    (∃ m, TypedMessage.decode .unpublishFirmware .request (.object members) = .ok m) ∧
      "status" ∉ members.map Prod.fst ∧
      ∀ n, TypedMessage.decode .unpublishFirmware .response (.object members) ≠ .ok n := by
  intro members
  obtain ⟨told, exclusive⟩ := direction_of_decode .unpublishFirmware members
  have decoded : TypedMessage.decode .unpublishFirmware .request (.object members) =
      .ok ⟨⟨.unpublishFirmware, .request⟩, ⟨.cons none (.cons "Unpublished" .nil)⟩⟩ := rfl
  refine ⟨⟨_, decoded⟩, ?_, fun n hn => exclusive ⟨_, n, decoded, hn⟩⟩
  intro there
  cases (told .request _ decoded).2 there

/-- An array of both fields is read in either direction. -/
example :
    let v : Json := .array [.null, .string "Unpublished"]
    (∃ m, TypedMessage.decode .unpublishFirmware .request v = .ok m) ∧
      ∃ n, TypedMessage.decode .unpublishFirmware .response v = .ok n :=
  ⟨⟨_, rfl⟩, ⟨_, rfl⟩⟩

end ChargePoint
