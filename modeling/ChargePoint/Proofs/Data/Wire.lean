import ChargePoint.Proofs.Message.Normal

/-!
# Parts on the wire

Custom data put two name spaces into one object: the vendor id, and the properties beside it.  They
can be told apart again exactly when no property has the name of the vendor id, and that is all that
validity asks of the names; limits play no part in it.  Status information passes this on from its
custom data, and asks for nothing else.

## Main results

* `CustomData.ofJson_canonical_write_iff`, `StatusInfo.ofJson_canonical_write_iff`: when parts are
  read back from what they write.
* `CustomData.get?_of_readFrom`: the properties that are read.
* `readBack_iff_apart`: all of it together.
-/

namespace ChargePoint

/-! ### Equal values -/

/-- Equal objects have the same names. -/
theorem VendorValue.names_eq_of_beqMembers {members others : List (String × VendorValue)}
    (h : VendorValue.beqMembers members others = true) :
    members.map Prod.fst = others.map Prod.fst := by
  induction members generalizing others with
  | nil =>
    cases others with
    | nil => rfl
    | cons entry rest => simp [VendorValue.beqMembers] at h
  | cons entry rest ih =>
    cases others with
    | nil => simp [VendorValue.beqMembers] at h
    | cons entry' rest' =>
      simp only [VendorValue.beqMembers, Bool.and_eq_true, beq_iff_eq] at h
      rw [List.map_cons, List.map_cons, h.1.1, ih h.2]

namespace CustomData

/-- The vendor id is apart from the properties: none of them has its name. -/
def Apart (c : CustomData) : Prop := c.get? vendorIdLabel = none

theorem Apart.congr {c d : CustomData} (apart : c.Apart) (h : (c == d) = true) : d.Apart := by
  have same : VendorValue.beqMembers c.properties d.properties = true :=
    (Bool.and_eq_true_iff.1 h).2
  have names := VendorValue.names_eq_of_beqMembers same
  unfold Apart get? at apart ⊢
  rwa [Keyed.lookup_eq_none_iff_notMem, ← names, ← Keyed.lookup_eq_none_iff_notMem]

/-! ### Custom data -/

/-- **The properties that are read** are the members other than the vendor id. -/
theorem get?_of_readFrom {members : List (String × Json)} {c : CustomData}
    (read : c.ReadFrom (.object members)) (name : String) :
    c.get? name =
      if name = vendorIdLabel then none else (members.lookup name).map VendorValue.ofJson := by
  obtain ⟨members, same, -, properties⟩ := read
  cases same
  rw [get?, properties, Keyed.lookup_mapValues, Keyed.lookup_erase]
  split <;> rfl

/-- Custom data that were read are apart: the member of the vendor id was taken for the vendor id.
-/
theorem apart_of_ofJson {v : Json} (canonical : v.Canonical) {c : CustomData}
    (h : ofJson v = .ok c) : c.Apart := by
  have read := (ofJson_eq_ok_iff canonical).1 h
  obtain ⟨members, rfl, -⟩ := id read
  exact (get?_of_readFrom read vendorIdLabel).trans (if_pos rfl)

/-- **Custom data are read back** from what they write exactly when the vendor id is apart. -/
theorem ofJson_canonical_write_iff {c : CustomData} (ordered : c.Ordered) :
    ofJson c.write.canonical = .ok c ↔ c.Apart :=
  ⟨apart_of_ofJson (Json.canonical_canonical _), fun apart =>
    (ofJson_eq_ok_iff (Json.canonical_canonical _)).2 (readFrom_canonical_write ordered apart)⟩

/-- It takes an object with a string for the vendor id to read custom data, and no more. -/
theorem exists_ofJson_iff {v : Json} (canonical : v.Canonical) :
    (∃ c, ofJson v = .ok c) ↔
      ∃ members s, v = .object members ∧ members.lookup vendorIdLabel = some (.string s) := by
  simp only [ofJson_eq_ok_iff canonical]
  constructor
  · rintro ⟨c, members, rfl, named, -⟩
    exact ⟨members, c.vendorId, rfl, named⟩
  · rintro ⟨members, s, rfl, named⟩
    exact ⟨⟨s, _⟩, members, rfl, named, rfl⟩

end CustomData

/-! ### Status information -/

namespace StatusInfo

/-- The custom data of status information, if there are any, have the vendor id apart. -/
def Apart (i : StatusInfo) : Prop := ∀ c ∈ i.customData, c.Apart

theorem Apart.congr {i j : StatusInfo} (apart : i.Apart) (h : (i == j) = true) : j.Apart := by
  obtain ⟨customData, reasonCode, additionalInfo⟩ := i
  obtain ⟨customData', reasonCode', additionalInfo'⟩ := j
  have parts : (customData == customData' && (reasonCode == reasonCode' &&
      additionalInfo == additionalInfo')) = true := h
  have same : (customData == customData') = true := (Bool.and_eq_true_iff.1 parts).1
  intro d there
  obtain rfl : customData' = some d := there
  cases customData with
  | none => cases same
  | some c => exact (apart c rfl).congr same

theorem apart_of_ofJson {v : Json} (canonical : v.Canonical) {i : StatusInfo}
    (h : ofJson v = .ok i) : i.Apart := by
  intro c there
  obtain ⟨-, read, -⟩ := (ofJson_eq_ok_iff canonical).1 h
  rw [Option.mem_def.1 there, rel_some_iff] at read
  obtain ⟨w, found, read⟩ := read
  have inner := Structure.canonical_given canonical (Structure.part_eq_some_iff.1 found).1
  exact CustomData.apart_of_ofJson inner ((CustomData.ofJson_eq_ok_iff inner).2 read)

/-- **Status information is read back** from what it writes exactly when its custom data are. -/
theorem ofJson_canonical_write_iff {i : StatusInfo} (ordered : i.Ordered) :
    ofJson i.write.canonical = .ok i ↔ i.Apart :=
  ⟨apart_of_ofJson (Json.canonical_canonical _), fun apart =>
    (ofJson_eq_ok_iff (Json.canonical_canonical _)).2 (readFrom_canonical_write ordered apart)⟩

end StatusInfo

/-- **Parts on the wire.**

* Custom data are read back from what they write, whatever their length, exactly when no property
  has the name of the vendor id; else nothing that is equal to them is.
* Custom data are read from the objects that have a string for the vendor id, and from nothing else.
  What is read has all other members for its properties, and writes the object again.
* Status information is read back from what it writes, whatever the lengths in it, exactly when its
  custom data are, if it has any; else nothing that is equal to it is. -/
theorem readBack_iff_apart :
    (∀ c : CustomData, c.Ordered →
      (CustomData.ofJson c.write.canonical = .ok c ↔ c.get? "vendorId" = none) ∧
      ((∃ d, CustomData.ofJson c.write.canonical = .ok d ∧ (d == c) = true) ↔
        c.get? "vendorId" = none)) ∧
    (∀ v : Json, v.Canonical →
      ((∃ c, CustomData.ofJson v = .ok c) ↔
        ∃ members s, v = .object members ∧ members.lookup "vendorId" = some (.string s)) ∧
      ∀ members c, v = .object members → CustomData.ofJson v = .ok c →
        members.lookup "vendorId" = some (.string c.vendorId) ∧ c.Ordered ∧
        (∀ name, c.get? name =
          if name = "vendorId" then none else (members.lookup name).map VendorValue.ofJson) ∧
        c.write.canonical = v) ∧
    ∀ i : StatusInfo, i.Ordered →
      (StatusInfo.ofJson i.write.canonical = .ok i ↔
        ∀ c ∈ i.customData, c.get? "vendorId" = none) ∧
      ((∃ j, StatusInfo.ofJson i.write.canonical = .ok j ∧ (j == i) = true) ↔
        ∀ c ∈ i.customData, c.get? "vendorId" = none) := by
  refine ⟨fun c ordered => ⟨?_, ?_⟩, fun v canonical => ⟨?_, ?_⟩, fun i ordered => ⟨?_, ?_⟩⟩
  · exact CustomData.ofJson_canonical_write_iff ordered
  · constructor
    · rintro ⟨d, read, same⟩
      exact (CustomData.apart_of_ofJson (Json.canonical_canonical _) read).congr same
    · intro apart
      exact ⟨c, (CustomData.ofJson_canonical_write_iff ordered).2 apart, beq_self_eq_true c⟩
  · exact CustomData.exists_ofJson_iff canonical
  · rintro members c rfl h
    have read := (CustomData.ofJson_eq_ok_iff canonical).1 h
    have written := CustomData.canonical_write_of_readFrom canonical read
    have properties := CustomData.get?_of_readFrom read
    obtain ⟨_, same, named, -⟩ := read
    cases same
    exact ⟨named, CustomData.ordered_of_ofJson h, properties, written⟩
  · exact StatusInfo.ofJson_canonical_write_iff ordered
  · constructor
    · rintro ⟨j, read, same⟩
      exact (StatusInfo.apart_of_ofJson (Json.canonical_canonical _) read).congr same
    · intro apart
      exact ⟨i, (StatusInfo.ofJson_canonical_write_iff ordered).2 apart, beq_self_eq_true i⟩

/-- A property may have any name but that of the vendor id, which is lost; the names of fields and
of parts are no exception, and a reason code that is too long is read back. -/
theorem readBack_names :
    let free : CustomData := ⟨"acme", [("customData", .null), ("properties", .array [.null])]⟩
    let taken : CustomData := ⟨"acme", [("vendorId", .string "other")]⟩
    let info : StatusInfo := ⟨some free, "012345678901234567890", none⟩
    CustomData.ofJson free.write.canonical = .ok free ∧
      CustomData.ofJson taken.write.canonical = .ok ⟨"other", []⟩ ∧
      CustomData.ofJson taken.write.canonical ≠ .ok taken ∧
      Validated.valid info = false ∧ StatusInfo.ofJson info.write.canonical = .ok info := by
  intro free taken info
  have ordered : free.Ordered := ⟨by decide, trivial, ⟨trivial, trivial⟩, trivial⟩
  have ordered' : taken.Ordered := ⟨by decide, trivial, trivial⟩
  have collected : taken.write.canonical = .object [("vendorId", .string "other")] := by
    simp [taken, CustomData.write, CustomData.vendorIdLabel, VendorValue.writeMembers,
      VendorValue.write, Json.canonical, Json.canonicalMembers, Keyed.ofList, Keyed.insert]
  obtain ⟨custom, -, status⟩ := readBack_iff_apart
  refine ⟨(custom free ordered).1.2 rfl, by rw [collected]; rfl, fun back => ?_, by decide, ?_⟩
  · cases (custom taken ordered').1.1 back
  · refine (status info ?_).1.2 ?_
    · rintro c ⟨⟩
      exact ordered
    · rintro c ⟨⟩
      rfl

end ChargePoint
