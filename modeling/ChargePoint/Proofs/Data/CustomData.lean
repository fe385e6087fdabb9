import ChargePoint.Data.CustomData
import ChargePoint.Proofs.Acceptance
import ChargePoint.Proofs.Data.Scalar
import ChargePoint.Proofs.VendorValue

/-!
# What custom data are read from

Custom data are read from an object that has a string for the vendor id; every other member becomes
a property, whatever it holds, and so none of the properties has the name of the vendor id.  Valid
custom data are read back from their own payload: writing puts the vendor id among the properties,
and validity keeps the two apart.

## Main definitions

* `CustomData.ReadFrom`: the objects that custom data are read from.

## Main results

* `CustomData.ofJson_eq_ok_iff`: reading.
* `CustomData.valid_iff`: when custom data are valid.
* `CustomData.ordered_of_ofJson`, `CustomData.ordered_of_ofDoc`: what is read is in order.
* `CustomData.readFrom_canonical_write`: valid custom data are read from what they write.
-/

namespace ChargePoint

namespace CustomData

/-- **What custom data are read from**: an object with a string for the vendor id, whose other
members are the properties. -/
def ReadFrom (v : Json) (c : CustomData) : Prop :=
  ∃ members, v = .object members ∧ members.lookup vendorIdLabel = some (.string c.vendorId) ∧
    c.properties = Keyed.mapValues VendorValue.ofJson (Keyed.erase vendorIdLabel members)

/-! ### Reading -/

/-- The vendor id after the members of an object have been read. -/
def Named (before after : Option String) : Option Json → Prop
  | none => after = before
  | some w => before = none ∧ ∃ s, w = .string s ∧ after = some s

/-- What the members of an object make of custom data that have been read in part: the member of the
vendor id is the only one of its name and has to be a string, and every other member is a property,
which can always be read. -/
theorem ofMembers_eq_ok_iff {members : List (String × Json)}
    (names : (members.map Prod.fst).Nodup) {before after : Option String}
    {collected properties : List (String × VendorValue)} :
    ofMembers members (before, collected) = .ok (after, properties) ↔
      Named before after (members.lookup vendorIdLabel) ∧
        properties = (Keyed.mapValues VendorValue.ofJson
          (Keyed.erase vendorIdLabel members)).foldl
            (fun collected entry => Keyed.insert entry.1 entry.2 collected) collected := by
  induction members generalizing before collected with
  | nil =>
    rw [ofMembers, Except.ok.injEq, Prod.mk.injEq]
    exact and_congr eq_comm eq_comm
  | cons entry rest ih =>
    obtain ⟨name, value⟩ := entry
    obtain ⟨fresh, others⟩ := List.nodup_cons.1 names
    unfold ofMembers
    rw [Keyed.lookup_cons]
    by_cases same : name = vendorIdLabel
    · subst same
      have absent : rest.lookup vendorIdLabel = none := Keyed.lookup_eq_none_iff_notMem.2 fresh
      have dropped : Keyed.erase vendorIdLabel ((vendorIdLabel, value) :: rest) =
          Keyed.erase vendorIdLabel rest := by simp [Keyed.erase]
      rw [if_pos rfl, if_pos rfl, dropped]
      cases before with
      | some s => simp [Named]
      | none =>
        simp only [bind_eq_ok_iff, toText_eq_ok_iff, ih others, absent, Named, true_and]
        grind
    · have kept : Keyed.erase vendorIdLabel ((name, value) :: rest) =
          (name, value) :: Keyed.erase vendorIdLabel rest := by simp [Keyed.erase, same]
      rw [if_neg same, if_neg (Ne.symm same), kept, VendorValue.read_eq, ok_bind, ih others,
        Keyed.mapValues_cons, List.foldl_cons]

/-- What custom data are read from, in the order in which it is written. -/
theorem ofJson_object_eq_ok_iff {members : List (String × Json)}
    (names : (members.map Prod.fst).Nodup) {c : CustomData} :
    ofJson (.object members) = .ok c ↔
      members.lookup vendorIdLabel = some (.string c.vendorId) ∧
        c.properties = Keyed.ofList (Keyed.mapValues VendorValue.ofJson
          (Keyed.erase vendorIdLabel members)) := by
  obtain ⟨vendorId, properties⟩ := c
  simp only [ofJson, bind_eq_ok_iff, Prod.exists, ofMembers_eq_ok_iff names, Keyed.ofList]
  cases members.lookup vendorIdLabel with
  | none => simp [Named, ofDraft]
  | some w =>
    constructor
    · rintro ⟨_, _, ⟨⟨-, s, rfl, rfl⟩, rfl⟩, h⟩
      cases h
      exact ⟨rfl, rfl⟩
    · rintro ⟨h, rfl⟩
      cases h
      exact ⟨_, _, ⟨⟨rfl, _, rfl, rfl⟩, rfl⟩, rfl⟩

/-- **Custom data are read** from exactly the values that they are said to be read from. -/
theorem ofJson_eq_ok_iff {v : Json} (canonical : v.Canonical) {c : CustomData} :
    ofJson v = .ok c ↔ ReadFrom v c := by
  cases v with
  | object members =>
    have ascending := (Json.canonical_object_iff.1 canonical).1
    have rest : Keyed.Ascending (Keyed.mapValues VendorValue.ofJson
        (Keyed.erase vendorIdLabel members)) :=
      (Keyed.ascending_mapValues_iff _).2 (Keyed.ascending_erase _ ascending)
    rw [ofJson_object_eq_ok_iff canonical.nodup, Keyed.ofList_eq_self rest]
    simp only [ReadFrom, Json.object.injEq, exists_eq_left']
  | null => simp [ofJson, ReadFrom]
  | bool b => simp [ofJson, ReadFrom]
  | number n => simp [ofJson, ReadFrom]
  | string s => simp [ofJson, ReadFrom]
  | array items => simp [ofJson, ReadFrom]

/-! ### Validity -/

/-- Custom data are valid when the vendor id is short enough and no property bears its name. -/
theorem valid_iff {c : CustomData} :
    Validated.valid c = true ↔
      c.vendorId.length ≤ vendorIdLimit ∧ c.properties.lookup vendorIdLabel = none := by
  show (fits _ _ && (c.get? _).isNone) = true ↔ _
  rw [Bool.and_eq_true, fits_iff, get?, Option.isNone_iff_eq_none]

/-- A property never has the name of the vendor id where custom data are read. -/
theorem ReadFrom.valid_iff {v : Json} {c : CustomData} (h : ReadFrom v c) :
    Validated.valid c = true ↔ c.vendorId.length ≤ vendorIdLimit := by
  obtain ⟨members, -, -, properties⟩ := h
  rw [CustomData.valid_iff, properties, Keyed.lookup_mapValues, Keyed.lookup_erase, if_pos rfl]
  simp

/-! ### Names in order -/

/-- What has been read of custom data is in order. -/
def Draft.Ordered (draft : Draft) : Prop := (VendorValue.object draft.2).Ordered

theorem Draft.ordered_none : Draft.Ordered (none, []) := VendorValue.ordered_nil

theorem ordered_of_ofDraft {draft : Draft} {c : CustomData} (ordered : draft.Ordered)
    (h : ofDraft draft = .ok c) : c.Ordered := by
  obtain ⟨_ | vendorId, properties⟩ := draft
  · cases h
  · cases h
    exact ordered

/-- Properties are put in order as they are read; the vendor id leaves them as they are. -/
theorem ordered_of_ofMembers {members : List (String × Json)} {draft final : Draft}
    (ordered : draft.Ordered) (h : ofMembers members draft = .ok final) : final.Ordered := by
  induction members generalizing draft with
  | nil =>
    cases h
    exact ordered
  | cons entry rest ih =>
    obtain ⟨name, value⟩ := entry
    obtain ⟨vendorId, properties⟩ := draft
    unfold ofMembers at h
    split at h
    · split at h
      · cases h
      · obtain ⟨s, -, h⟩ := bind_eq_ok_iff.1 h
        have same : Draft.Ordered (some s, properties) := ordered
        exact ih same h
    · obtain ⟨property, read, h⟩ := bind_eq_ok_iff.1 h
      have more : Draft.Ordered (vendorId, Keyed.insert name property properties) :=
        VendorValue.ordered_insert ordered (VendorValue.ordered_of_read read)
      exact ih more h

theorem ordered_of_ofJson {v : Json} {c : CustomData} (h : ofJson v = .ok c) : c.Ordered := by
  unfold ofJson at h
  split at h
  · obtain ⟨draft, read, h⟩ := bind_eq_ok_iff.1 h
    exact ordered_of_ofDraft (ordered_of_ofMembers Draft.ordered_none read) h
  · cases h

theorem ordered_of_ofDocMembers : {members : Doc.Members} → {draft final : Draft} →
    draft.Ordered → ofDocMembers members draft = .ok final → final.Ordered
  | .close, draft, final, ordered, h => by
    cases h
    exact ordered
  | .cut fault, draft, final, ordered, h => nomatch h
  | .stray key, draft, final, ordered, h => nomatch h
  | .member name value rest, (vendorId, properties), final, ordered, h => by
    unfold ofDocMembers at h
    split at h
    · split at h
      · cases h
      · obtain ⟨s, -, h⟩ := bind_eq_ok_iff.1 h
        have same : Draft.Ordered (some s, properties) := ordered
        exact ordered_of_ofDocMembers same h
    · obtain ⟨tree, -, h⟩ := bind_eq_ok_iff.1 h
      obtain ⟨property, read, h⟩ := bind_eq_ok_iff.1 h
      have more : Draft.Ordered (vendorId, Keyed.insert name property properties) :=
        VendorValue.ordered_insert ordered
          (VendorValue.ordered_of_read (mapError_eq_ok_iff.1 read))
      exact ordered_of_ofDocMembers more h

theorem ordered_of_ofDoc {doc : Doc} {c : CustomData} (h : ofDoc doc = .ok c) : c.Ordered := by
  unfold ofDoc at h
  split at h
  · obtain ⟨draft, read, h⟩ := bind_eq_ok_iff.1 h
    exact ordered_of_ofDraft (ordered_of_ofDocMembers Draft.ordered_none read)
      (mapError_eq_ok_iff.1 h)
  · obtain ⟨found, -, h⟩ := bind_eq_ok_iff.1 h
    cases h

/-! ### Writing -/

/-- The members that valid custom data write have distinct names. -/
theorem nodup_written {c : CustomData} (ordered : c.Ordered)
    (apart : c.properties.lookup vendorIdLabel = none) :
    (((vendorIdLabel, Json.string c.vendorId) ::
      VendorValue.writeMembers c.properties).map Prod.fst).Nodup := by
  have ascending := (VendorValue.ordered_object_iff.1 ordered).1
  rw [VendorValue.writeMembers_eq_mapValues, List.map_cons, Keyed.map_fst_mapValues]
  exact List.nodup_cons.2
    ⟨Keyed.lookup_eq_none_iff_notMem.1 apart, Keyed.nodup_of_ascending ascending⟩

/-- **Valid custom data are read from what they write.** -/
theorem readFrom_canonical_write {c : CustomData} (ordered : c.Ordered)
    (apart : c.properties.lookup vendorIdLabel = none) : ReadFrom c.write.canonical c := by
  obtain ⟨ascending, inner⟩ := VendorValue.ordered_object_iff.1 ordered
  have names := nodup_written ordered apart
  rw [← Keyed.map_fst_mapValues Json.canonical] at names
  refine ⟨_, by rw [write, Json.canonical_object], ?_, ?_⟩
  · rw [Keyed.lookup_ofList names, Keyed.mapValues_cons, Keyed.lookup_cons, if_pos rfl]
    rfl
  · -- both sides are keyed lists, so it is enough to look each name up
    refine Keyed.ext ascending
      ((Keyed.ascending_mapValues_iff _).2 (Keyed.ascending_erase _ (Keyed.ascending_ofList _)))
      fun name => ?_
    rw [Keyed.lookup_mapValues, Keyed.lookup_erase, Keyed.lookup_ofList names, Keyed.mapValues_cons,
      Keyed.lookup_cons, VendorValue.writeMembers_eq_mapValues, Keyed.lookup_mapValues,
      Keyed.lookup_mapValues]
    -- the name of the vendor id is erased on one side and was never there on the other
    by_cases same : name = vendorIdLabel
    · rw [if_pos same, same, apart]
      rfl
    · rw [if_neg same, if_neg same]
      cases found : c.properties.lookup name with
      | none => rfl
      | some value =>
        have back := VendorValue.ofJson_canonical_write (inner _ (Keyed.mem_of_lookup found))
        exact congrArg some back.symm

instance : ReflBEq CustomData where
  rfl {c} := by
    show (c.vendorId == c.vendorId &&
      VendorValue.object c.properties == .object c.properties) = true
    rw [beq_self_eq_true, beq_self_eq_true, Bool.and_self]

end CustomData

end ChargePoint
