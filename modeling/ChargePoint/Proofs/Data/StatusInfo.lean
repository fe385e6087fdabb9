import ChargePoint.Data.StatusInfo
import ChargePoint.Proofs.Data.CustomData
import ChargePoint.Proofs.Structure

/-!
# What status information is read from

Status information is read from an object of its three parts, or from an array of all three, where
the reason code is a string and the others may be absent or `null`.  Nothing of it is held to its
limits yet.  Status information with valid custom data is read back from its own payload.

## Main definitions

* `StatusInfo.ReadFrom`: what status information is read from.

## Main results

* `StatusInfo.ofJson_eq_ok_iff`: reading.
* `StatusInfo.valid_iff`: when status information is valid.
* `StatusInfo.ordered_of_ofJson`, `StatusInfo.ordered_of_ofDoc`: what is read is in order.
* `StatusInfo.readFrom_canonical_write`: status information is read from what it writes.
-/

namespace ChargePoint

namespace StatusInfo

/-- The places of the three parts. -/
def customDataSlot : Slot form.fields .customData := .first

@[inherit_doc customDataSlot]
def reasonCodeSlot : Slot form.fields .reasonCode := .next .first

@[inherit_doc customDataSlot]
def additionalInfoSlot : Slot form.fields .additionalInfo := .next (.next .first)

/-- **What status information is read from**: the form of its structure, with a string for the
reason code; custom data and further text may be absent or `null`. -/
def ReadFrom (v : Json) (i : StatusInfo) : Prop :=
  form.Fits v ∧ Option.Rel CustomData.ReadFrom (form.part v customDataSlot) i.customData ∧
    form.given v reasonCodeSlot = some (.string i.reasonCode) ∧
    form.part v additionalInfoSlot = i.additionalInfo.map Json.string

theorem labels_nodup : form.labels.Nodup := by decide

/-- What status information is read from, part by part: a reason code is a string, so it is no
`null`. -/
theorem readFrom_iff_part {v : Json} {i : StatusInfo} : i.ReadFrom v ↔
    form.Fits v ∧ Option.Rel CustomData.ReadFrom (form.part v customDataSlot) i.customData ∧
      form.part v reasonCodeSlot = some (.string i.reasonCode) ∧
      form.part v additionalInfoSlot = i.additionalInfo.map Json.string := by
  have reasonCode : form.given v reasonCodeSlot = some (.string i.reasonCode) ↔
      form.part v reasonCodeSlot = some (.string i.reasonCode) :=
    (and_iff_left rfl).symm.trans Structure.part_eq_some_iff.symm
  rw [ReadFrom, reasonCode]

/-! ### Reading -/

theorem forall_slot_iff {p : (part : Part) → Slot form.fields part → Prop} :
    (∀ part slot, p part slot) ↔
      p _ customDataSlot ∧ p _ reasonCodeSlot ∧ p _ additionalInfoSlot := by
  constructor
  · intro h
    exact ⟨h _ _, h _ _, h _ _⟩
  · rintro ⟨first, second, third⟩ part slot
    match part, slot with
    | _, .first => exact first
    | _, .next .first => exact second
    | _, .next (.next .first) => exact third

/-- The parts that were read make status information as long as a reason code is among them. -/
theorem ofDraft_eq_ok_iff {draft : form.Draft} {i : StatusInfo} :
    ofDraft draft = .ok i ↔
      (draft.get customDataSlot).join = i.customData ∧
        draft.get reasonCodeSlot = some i.reasonCode ∧
        (draft.get additionalInfoSlot).join = i.additionalInfo := by
  obtain ⟨customData, reasonCode, additionalInfo⟩ := i
  match draft with
  | .cons customData' (.cons none (.cons additionalInfo' .nil)) =>
    exact ⟨nofun, fun ⟨_, h, _⟩ => nomatch h⟩
  | .cons customData' (.cons (some code) (.cons additionalInfo' .nil)) =>
    constructor
    · intro h
      cases h
      exact ⟨rfl, rfl, rfl⟩
    · rintro ⟨first, second, third⟩
      obtain rfl : code = reasonCode := Option.some.inj second
      subst first third
      rfl

/-- What is read for the parts, one by one. -/
theorem form_ofJson_eq_ok_iff {v : Json} (canonical : v.Canonical) {draft : form.Draft} :
    form.ofJson Part.ofJson v = .ok draft ↔
      form.Fits v ∧
        Option.Rel (fun w x => Json.orNull CustomData.ofJson w = .ok x)
          (form.given v customDataSlot) (draft.get customDataSlot) ∧
        Option.Rel (fun w x => w.outline.toText = .ok x)
          (form.given v reasonCodeSlot) (draft.get reasonCodeSlot) ∧
        Option.Rel (fun w x => Json.orNull (fun w => w.outline.toText) w = .ok x)
          (form.given v additionalInfoSlot) (draft.get additionalInfoSlot) :=
  (Structure.ofJson_eq_ok_iff labels_nodup canonical).trans
    (and_congr_right fun _ => forall_slot_iff)

/-- **Status information is read** from exactly the values that it is said to be read from. -/
theorem ofJson_eq_ok_iff {v : Json} (canonical : v.Canonical) {i : StatusInfo} :
    ofJson v = .ok i ↔ ReadFrom v i := by
  have customData : Option.Rel (fun w x => CustomData.ofJson w = .ok x)
      (form.part v customDataSlot) i.customData ↔
        Option.Rel CustomData.ReadFrom (form.part v customDataSlot) i.customData :=
    rel_congr fun w h c => CustomData.ofJson_eq_ok_iff
      (Structure.canonical_given canonical (Structure.part_eq_some_iff.1 h).1)
  have additionalInfo : Option.Rel (fun w x => w.outline.toText = .ok x)
      (form.part v additionalInfoSlot) i.additionalInfo ↔
        form.part v additionalInfoSlot = i.additionalInfo.map Json.string :=
    (rel_congr fun w _ s => toText_eq_ok_iff).trans rel_eq_map_iff
  rw [ReadFrom, ← customData, ← additionalInfo, Structure.part, Structure.part, ← rel_orNull_iff,
    ← rel_orNull_iff]
  rw [ofJson, bind_eq_ok_iff]
  constructor
  · rintro ⟨draft, hd, hi⟩
    obtain ⟨fits, first, second, third⟩ := (form_ofJson_eq_ok_iff canonical).1 hd
    obtain ⟨hc, hr, ha⟩ := ofDraft_eq_ok_iff.1 hi
    rw [hr] at second
    refine ⟨fits, ⟨_, first, hc⟩, ?_, ⟨_, third, ha⟩⟩
    obtain ⟨w, found, read⟩ := rel_some_iff.1 second
    rw [found, toText_eq_ok_iff.1 read]
  · rintro ⟨fits, ⟨first, hf, hc⟩, hr, ⟨third, ht, ha⟩⟩
    refine ⟨.cons first (.cons (some i.reasonCode) (.cons third .nil)),
      (form_ofJson_eq_ok_iff canonical).2 ⟨fits, hf, ?_, ht⟩,
      ofDraft_eq_ok_iff.2 ⟨hc, rfl, ha⟩⟩
    rw [hr]
    exact .some rfl

/-! ### Validity -/

/-- Status information is valid when its custom data are and both its strings are short enough. -/
theorem valid_iff {i : StatusInfo} :
    Validated.valid i = true ↔
      (∀ c ∈ i.customData, Validated.valid c = true) ∧ i.reasonCode.length ≤ reasonCodeLimit ∧
        ∀ s ∈ i.additionalInfo, s.length ≤ additionalInfoLimit := by
  show (i.customData.all _ && fits _ _ && i.additionalInfo.all _) = true ↔ _
  rw [Bool.and_eq_true, Bool.and_eq_true, fits_iff, Option.all_eq_true, Option.all_eq_true,
    and_assoc]
  simp only [Option.mem_def, fits_iff]

/-- Custom data that were read are valid once the vendor id is short enough. -/
theorem ReadFrom.valid_iff {v : Json} {i : StatusInfo} (h : ReadFrom v i) :
    Validated.valid i = true ↔
      (∀ c ∈ i.customData, c.vendorId.length ≤ CustomData.vendorIdLimit) ∧
        i.reasonCode.length ≤ reasonCodeLimit ∧
        ∀ s ∈ i.additionalInfo, s.length ≤ additionalInfoLimit := by
  rw [StatusInfo.valid_iff]
  refine and_congr_left fun _ => forall_congr' fun c => forall_congr' fun member => ?_
  have read := h.2.1
  rw [Option.mem_def.1 member, rel_some_iff] at read
  obtain ⟨w, -, read⟩ := read
  exact read.valid_iff

/-! ### Names in order -/

/-- The custom data that were read for a part are in order. -/
def Part.Ordered : (part : Part) → part.Value → Prop
  | customData => fun (x : Option CustomData) => ∀ c ∈ x, c.Ordered
  | _ => fun _ => True

theorem ordered_of_ofDraft {draft : form.Draft} {i : StatusInfo}
    (ordered : Structure.Draft.All Part.Ordered draft) (h : ofDraft draft = .ok i) : i.Ordered := by
  obtain ⟨customData, -, -⟩ := ofDraft_eq_ok_iff.1 h
  intro c there
  rw [← customData] at there
  exact ordered _ customDataSlot _ (Option.join_eq_some_iff.1 there) c rfl

theorem ordered_of_ofJson {v : Json} {i : StatusInfo} (h : ofJson v = .ok i) : i.Ordered := by
  obtain ⟨draft, read, h⟩ := bind_eq_ok_iff.1 h
  refine ordered_of_ofDraft (Structure.all_of_ofJson ?_ read) h
  intro part w x hx
  cases part with
  | customData => exact fun c there => CustomData.ordered_of_ofJson (read_of_orNull hx there)
  | _ => trivial

theorem ordered_of_ofDoc {doc : Doc} {i : StatusInfo} (h : ofDoc doc = .ok i) : i.Ordered := by
  obtain ⟨draft, read, h⟩ := bind_eq_ok_iff.1 h
  refine ordered_of_ofDraft (Structure.all_of_ofDoc ?_ read) (mapError_eq_ok_iff.1 h)
  intro part found x hx
  cases part with
  | customData => exact fun c there => CustomData.ordered_of_ofDoc (read_of_orNull_doc hx there)
  | _ => trivial

/-! ### Writing -/

/-- The members that status information writes. -/
def written (i : StatusInfo) : List (String × Json) :=
  (i.customData.map fun c => ("customData", c.write)).toList ++
    ("reasonCode", .string i.reasonCode) ::
    (i.additionalInfo.map fun text => ("additionalInfo", .string text)).toList

theorem nodup_written (i : StatusInfo) : (i.written.map Prod.fst).Nodup := by
  obtain ⟨customData, reasonCode, additionalInfo⟩ := i
  cases customData <;> cases additionalInfo <;> simp [written]

theorem written_labels (i : StatusInfo) : ∀ name ∈ i.written.map Prod.fst, name ∈ form.labels := by
  obtain ⟨customData, reasonCode, additionalInfo⟩ := i
  have labels : form.labels = ["customData", "reasonCode", "additionalInfo"] := rfl
  cases customData <;> cases additionalInfo <;> simp [written, labels]

/-- What is written under each name: the part of that name, if it is there. -/
theorem lookup_written (i : StatusInfo) :
    i.written.lookup "customData" = i.customData.map CustomData.write ∧
      i.written.lookup "reasonCode" = some (.string i.reasonCode) ∧
      i.written.lookup "additionalInfo" = i.additionalInfo.map Json.string := by
  obtain ⟨customData, reasonCode, additionalInfo⟩ := i
  cases customData <;> cases additionalInfo <;> simp [written, Keyed.lookup_cons]

/-- **Status information is read from what it writes**, where its custom data keep the vendor id
apart from the properties. -/
theorem readFrom_canonical_write {i : StatusInfo} (ordered : i.Ordered)
    (apart : ∀ c ∈ i.customData, c.properties.lookup CustomData.vendorIdLabel = none) :
    ReadFrom i.write.canonical i := by
  obtain ⟨first, second, third⟩ := lookup_written i
  have given {part : Part} (slot : Slot form.fields part) :
      form.given i.write.canonical slot = (i.written.lookup part.label).map Json.canonical :=
    Structure.given_canonical_object (nodup_written i) slot
  refine ⟨Structure.fits_canonical_object (written_labels i), ?_, ?_, ?_⟩
  · rw [Structure.part, given, Part.label, first]
    cases h : i.customData with
    | none => exact .none
    | some c => exact .some (CustomData.readFrom_canonical_write (ordered c h) (apart c h))
  · rw [given, Part.label, second]
    rfl
  · rw [Structure.part, given, Part.label, third]
    cases i.additionalInfo <;> rfl

deriving instance ReflBEq for StatusInfo

end StatusInfo

end ChargePoint
