import ChargePoint.Message.Typed
import ChargePoint.Proofs.Message.Field

/-!
# What messages are read from

A message is read from a value of the form of its type, whose parts are what the contents are read
from.  Of these messages the valid ones are decoded, and no others: the checks that a message goes
through when it is put together are those of its validity, field by field.

## Main definitions

* `Message.ReadFrom`: what a message is read from.

## Main results

* `Message.valid_iff`, `Message.ofDraft_eq_ok_iff`: validity and putting together, field by field.
* `Message.readDraft_eq_ok_iff`: what is read for each field.
* `Message.decode_iff`, `Message.ofJson_eq_ok_iff`: decoding succeeds on what valid messages are
  read from.
-/

namespace ChargePoint

/-- No two fields of a type share a name. -/
theorem MessageType.labels_nodup (t : MessageType) : t.form.labels.Nodup := by
  obtain ⟨action, direction⟩ := t
  cases action <;> cases direction <;> decide

namespace Message

variable {t : MessageType} {v : Json}

/-- **What a message is read from**, with no regard to limits. -/
def ReadFrom (v : Json) (m : Message t) : Prop :=
  t.form.Fits v ∧ ∀ f (slot : Slot t.fields f),
    Option.Rel f.kind.ReadFrom (t.form.part v slot) (f.value? (m.get slot))

theorem valid_iff {m : Message t} :
    Validated.valid m = true ↔ ∀ f (slot : Slot t.fields f), f.valid (m.get slot) = true :=
  Record.all_iff _ _

/-- **A message is put together** when every field can be committed. -/
theorem ofDraft_eq_ok_iff {draft : Draft t} {m : Message t} :
    ofDraft draft = .ok m ↔
      ∀ f (slot : Slot t.fields f), f.commit (draft.get slot) = .ok (m.get slot) := by
  simp only [ofDraft, bind_eq_ok_iff, pure_eq_ok_iff, Record.mapM_eq_ok_iff]
  constructor
  · rintro ⟨-, -, contents, h, rfl⟩
    exact h
  · intro h
    -- the required fields are committed twice, and the first time changes nothing
    refine ⟨Record.pure (fun _ => ()) _, fun f slot => ?_, m.contents, h, rfl⟩
    unfold commitRequired
    split
    · rw [h f slot]
      rfl
    · rfl

/-- **What is read for each field** of a value. -/
theorem readDraft_eq_ok_iff (canonical : v.Canonical) {draft : Draft t} :
    readDraft t v = .ok draft ↔
      t.form.Fits v ∧ ∀ f (slot : Slot t.fields f),
        Option.Rel (fun w raw => f.kind.ofJson w = .ok raw) (t.form.part v slot)
          (draft.get slot) := by
  have form (read : t.form.Draft) :
      t.form.ofJson (fun f => Json.orNull f.kind.ofJson) v = .ok read ↔ _ :=
    Structure.ofJson_eq_ok_iff t.labels_nodup canonical
  constructor
  · intro h
    obtain ⟨read, hr, hd⟩ := bind_eq_ok_iff.1 h
    cases hd
    obtain ⟨fits, h⟩ := (form read).1 hr
    refine ⟨fits, fun f slot => rel_orNull_iff.1 ⟨read.get slot, h f slot, ?_⟩⟩
    exact (Record.get_map (fun _ content => content.join) read slot).symm
  · rintro ⟨fits, h⟩
    obtain ⟨read, hr⟩ := Record.exists_of_forall fun f slot => rel_orNull_iff.2 (h f slot)
    have joined : read.map (fun _ content => content.join) = draft :=
      Record.ext fun f slot => (Record.get_map _ _ _).trans (hr f slot).2
    exact bind_eq_ok_iff.2
      ⟨read, (form read).2 ⟨fits, fun f slot => (hr f slot).1⟩, congrArg Except.ok joined⟩

/-- **Reading and putting together** succeed on what valid messages are read from. -/
theorem read_commit_iff (canonical : v.Canonical) {m : Message t} :
    (∃ draft, readDraft t v = .ok draft ∧ ofDraft draft = .ok m) ↔
      m.ReadFrom v ∧ Validated.valid m = true := by
  have values (f : Field) (slot : Slot t.fields f) :
      ∀ w ∈ t.form.part v slot, w.Canonical ∧ w.isNull = false := by
    intro w there
    obtain ⟨given, present⟩ := Structure.part_eq_some_iff.1 there
    exact ⟨Structure.canonical_given canonical given, present⟩
  simp only [readDraft_eq_ok_iff canonical, ofDraft_eq_ok_iff, ReadFrom, valid_iff]
  constructor
  · rintro ⟨draft, ⟨fits, read⟩, committed⟩
    have both f (slot : Slot t.fields f) :=
      (Field.commit_read_iff (values f slot)).1 ⟨_, read f slot, committed f slot⟩
    exact ⟨⟨fits, fun f slot => (both f slot).1⟩, fun f slot => (both f slot).2⟩
  · rintro ⟨⟨fits, read⟩, valid⟩
    obtain ⟨draft, hd⟩ := Record.exists_of_forall fun f slot =>
      (Field.commit_read_iff (values f slot)).2 ⟨read f slot, valid f slot⟩
    exact ⟨draft, ⟨fits, fun f slot => (hd f slot).1⟩, fun f slot => (hd f slot).2⟩

theorem ofJson_eq_ok_iff (canonical : v.Canonical) {m : Message t} :
    ofJson t v = .ok m ↔ m.ReadFrom v ∧ Validated.valid m = true := by
  rw [← read_commit_iff canonical, ofJson]
  simp only [bind_eq_ok_iff, mapError_eq_ok_iff]

theorem decode_iff (canonical : v.Canonical) {m : Message t} :
    decode (Message t) v = .ok m ↔ m.ReadFrom v ∧ Validated.valid m = true := by
  rw [← read_commit_iff canonical, decode]
  simp only [bind_eq_ok_iff, mapError_eq_ok_iff]
  rfl

end Message

end ChargePoint
