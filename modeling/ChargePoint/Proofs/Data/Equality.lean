import ChargePoint.Proofs.Data.StatusInfo
import ChargePoint.Proofs.Json.Equality

/-!
# Equality of vendor values and parts

Vendor values, custom data and status information are equal as JSON values are: when they are the
same once the sign of zeros has been dropped.  Dropping it changes neither what a value gives to a
hash, nor whether it is valid, nor the order of its names, and can be done before or after writing.

## Main definitions

* `VendorValue.foldZeros`, `CustomData.foldZeros`, `StatusInfo.foldZeros`: the sign of zeros
  dropped.

## Main results

* `VendorValue.equalAt_foldZeros`, `CustomData.equalAt_foldZeros`, `StatusInfo.equalAt_foldZeros`:
  equality.
* `VendorValue.fingerprint_foldZeros`, `VendorValue.write_foldZeros` and those of the other types:
  what dropping the sign of zeros leaves.
-/

namespace ChargePoint

/-! ### Vendor values -/

namespace VendorValue

mutual

/-- **A value without the sign of zeros.** -/
def foldZeros : VendorValue → VendorValue
  | null => null
  | bool b => bool b
  | number n => number n.foldZeros
  | string s => string s
  | array items => array (foldItems items)
  | object members => object (foldMembers members)

/-- The items of an array without the sign of zeros. -/
def foldItems : List VendorValue → List VendorValue
  | [] => []
  | item :: rest => foldZeros item :: foldItems rest

/-- The members of an object without the sign of zeros. -/
def foldMembers : List (String × VendorValue) → List (String × VendorValue)
  | [] => []
  | (name, value) :: rest => (name, foldZeros value) :: foldMembers rest

end

theorem foldItems_eq_map (items : List VendorValue) : foldItems items = items.map foldZeros := by
  induction items with
  | nil => rfl
  | cons item rest ih => rw [foldItems, ih, List.map_cons]

theorem foldMembers_eq_mapValues (members : List (String × VendorValue)) :
    foldMembers members = Keyed.mapValues foldZeros members := by
  induction members with
  | nil => rfl
  | cons entry rest ih => rw [foldMembers, ih, Keyed.mapValues_cons]

theorem beqItems_eq (xs ys : List VendorValue) : VendorValue.beqItems xs ys = (xs == ys) := by
  induction xs generalizing ys with
  | nil => cases ys <;> rfl
  | cons x xs ih =>
    rcases ys with - | ⟨y, ys⟩
    · rfl
    · rw [VendorValue.beqItems, ih, List.cons_beq_cons]
      rfl

theorem beqMembers_eq (xs ys : List (String × VendorValue)) :
    VendorValue.beqMembers xs ys = (xs == ys) := by
  induction xs generalizing ys with
  | nil => cases ys <;> rfl
  | cons x xs ih =>
    rcases ys with - | ⟨y, ys⟩
    · rfl
    · rw [VendorValue.beqMembers, ih, List.cons_beq_cons]
      rfl

/-- **Values are equal** that are the same without the sign of zeros. -/
theorem equalAt_foldZeros (value : VendorValue) : EqualAt foldZeros value := by
  intro other
  -- values of two forms are neither equal nor the same, and those of one go by their parts
  induction value using inductionOn generalizing other with
  | null =>
    cases other with
    | null => exact iff_of_true rfl rfl
    | _ => exact iff_of_false nofun nofun
  | bool b =>
    cases other with
    | bool c =>
      show (b == c) = true ↔ _
      simp [foldZeros]
    | _ => exact iff_of_false nofun nofun
  | number n =>
    cases other with
    | number m => exact (n.equalAt_foldZeros m).trans (by simp [foldZeros])
    | _ => exact iff_of_false nofun nofun
  | string s =>
    cases other with
    | string t =>
      show (s == t) = true ↔ _
      simp [foldZeros]
    | _ => exact iff_of_false nofun nofun
  | array items ih =>
    cases other with
    | array others =>
      show VendorValue.beqItems items others = true ↔ _
      rw [beqItems_eq, equalAt_list ih others, foldZeros, foldZeros, foldItems_eq_map,
        foldItems_eq_map, array.injEq]
    | _ => exact iff_of_false nofun nofun
  | object members ih =>
    cases other with
    | object others =>
      show VendorValue.beqMembers members others = true ↔ _
      rw [beqMembers_eq, equalAt_members ih others, foldZeros, foldZeros,
        foldMembers_eq_mapValues, foldMembers_eq_mapValues, object.injEq]
    | _ => exact iff_of_false nofun nofun

/-- Without the signs of zeros a value is `null` as much as it was. -/
theorem isNull_foldZeros (value : VendorValue) : value.foldZeros.isNull = value.isNull := by
  cases value <;> rfl

theorem ordered_foldZeros {value : VendorValue} (h : value.Ordered) : value.foldZeros.Ordered := by
  induction value using inductionOn with
  | null => trivial
  | bool b => trivial
  | number n => trivial
  | string s => trivial
  | array items ih =>
    rw [ordered_array_iff] at h
    rw [foldZeros, foldItems_eq_map, ordered_array_iff]
    intro item member
    rcases List.mem_map.1 member with ⟨old, there, rfl⟩
    exact ih old there (h old there)
  | object members ih =>
    rcases ordered_object_iff.1 h with ⟨ascending, inner⟩
    rw [foldZeros, foldMembers_eq_mapValues, ordered_object_iff]
    refine ⟨(Keyed.ascending_mapValues_iff foldZeros).2 ascending, ?_⟩
    intro entry member
    rcases Keyed.mem_mapValues_iff.1 member with ⟨old, there, rfl⟩
    exact ih old there (inner old there)

/-- **Signs are dropped before or after writing.** -/
theorem write_foldZeros (value : VendorValue) : value.foldZeros.write = value.write.foldZeros := by
  induction value using inductionOn with
  | null => rfl
  | bool b => rfl
  | number n => rfl
  | string s => rfl
  | array items ih =>
    rw [foldZeros, foldItems_eq_map, write, writeItems_eq_map, write, writeItems_eq_map,
      Json.foldZeros, Json.foldItems_eq_map, List.map_map, List.map_map]
    exact congrArg Json.array (List.map_congr_left ih)
  | object members ih =>
    rw [foldZeros, foldMembers_eq_mapValues, write, writeMembers_eq_mapValues, write,
      writeMembers_eq_mapValues, Json.foldZeros, Json.foldMembers_eq_mapValues,
      Keyed.mapValues_mapValues, Keyed.mapValues_mapValues]
    exact congrArg Json.object (Keyed.mapValues_congr ih)

theorem writeMembers_foldMembers (members : List (String × VendorValue)) :
    writeMembers (foldMembers members) = Json.foldMembers (writeMembers members) := by
  have whole := write_foldZeros (object members)
  exact Json.object.inj whole

/-! ### Fingerprints -/

/-- What is hashed of a number does not tell the sign of a zero. -/
theorem fingerprintNumber_foldZeros (n : Number) :
    fingerprintNumber n.foldZeros = fingerprintNumber n := by
  rcases n with n | x
  · rfl
  · by_cases zero : x.isZero = true
    · rw [Number.foldZeros, if_pos zero, fingerprintNumber, fingerprintNumber, if_pos zero]
      rfl
    · rw [Number.foldZeros, if_neg zero]

theorem fingerprintItems_map {f : VendorValue → VendorValue} {items : List VendorValue}
    (each : ∀ item ∈ items, (f item).fingerprint = item.fingerprint) :
    fingerprintItems (items.map f) = fingerprintItems items := by
  induction items with
  | nil => rfl
  | cons item rest ih =>
    rw [List.forall_mem_cons] at each
    rw [List.map_cons, fingerprintItems, fingerprintItems, each.1, ih each.2]

theorem fingerprintMembers_mapValues {f : VendorValue → VendorValue}
    {members : List (String × VendorValue)}
    (each : ∀ entry ∈ members, (f entry.2).fingerprint = entry.2.fingerprint) :
    fingerprintMembers (Keyed.mapValues f members) = fingerprintMembers members := by
  induction members with
  | nil => rfl
  | cons entry rest ih =>
    rw [List.forall_mem_cons] at each
    rw [Keyed.mapValues_cons, fingerprintMembers, fingerprintMembers, each.1, ih each.2]

/-- **The sign of zeros does not count for a hash.** -/
theorem fingerprint_foldZeros (value : VendorValue) :
    value.foldZeros.fingerprint = value.fingerprint := by
  induction value using inductionOn with
  | null => rfl
  | bool b => rfl
  | number n => rw [foldZeros, fingerprint, fingerprint, fingerprintNumber_foldZeros]
  | string s => rfl
  | array items ih =>
    rw [foldZeros, foldItems_eq_map, fingerprint, fingerprint, fingerprintItems_map ih,
      List.length_map]
  | object members ih =>
    rw [foldZeros, foldMembers_eq_mapValues, fingerprint, fingerprint,
      fingerprintMembers_mapValues ih, Keyed.mapValues, List.length_map]

end VendorValue

/-! ### Custom data -/

namespace CustomData

/-- Custom data without the sign of zeros. -/
def foldZeros (c : CustomData) : CustomData := ⟨c.vendorId, VendorValue.foldMembers c.properties⟩

theorem beq_iff {c d : CustomData} :
    (c == d) = true ↔ c.vendorId = d.vendorId ∧
      (VendorValue.object c.properties == .object d.properties) = true := by
  show (c.vendorId == d.vendorId && _) = true ↔ _
  rw [Bool.and_eq_true, beq_iff_eq]

/-- Custom data are equal when they are the same but for the signs of zeros in their properties. -/
theorem equalAt_foldZeros (c : CustomData) : EqualAt foldZeros c := by
  intro d
  rw [beq_iff, VendorValue.equalAt_foldZeros, VendorValue.foldZeros, VendorValue.foldZeros,
    VendorValue.object.injEq, foldZeros, foldZeros, mk.injEq]

/-- Signs of zeros are dropped from the values of properties, never from their names. -/
theorem get?_foldZeros (c : CustomData) (name : String) :
    c.foldZeros.get? name = (c.get? name).map VendorValue.foldZeros := by
  rw [get?, foldZeros, VendorValue.foldMembers_eq_mapValues, Keyed.lookup_mapValues]
  rfl

theorem valid_foldZeros (c : CustomData) : Validated.valid c.foldZeros = Validated.valid c := by
  show (fits vendorIdLimit c.vendorId && (c.foldZeros.get? vendorIdLabel).isNone) = _
  rw [get?_foldZeros, Option.isNone_map]
  rfl

theorem ordered_foldZeros {c : CustomData} (h : c.Ordered) : c.foldZeros.Ordered := by
  have properties : (VendorValue.object c.properties).Ordered := h
  exact VendorValue.ordered_foldZeros properties

theorem fingerprint_foldZeros (c : CustomData) :
    Fingerprint.items c.foldZeros = Fingerprint.items c := by
  have whole := VendorValue.fingerprint_foldZeros (.object c.properties)
  rw [VendorValue.foldZeros, VendorValue.fingerprint, VendorValue.fingerprint] at whole
  exact congrArg (Fingerprint.Item.text c.vendorId :: ·) (List.cons.inj whole).2

theorem write_foldZeros (c : CustomData) : c.foldZeros.write = c.write.foldZeros := by
  rw [write, write, foldZeros, VendorValue.writeMembers_foldMembers]
  rfl

end CustomData

/-! ### Status information -/

namespace StatusInfo

/-- Status information without the sign of zeros. -/
def foldZeros (i : StatusInfo) : StatusInfo :=
  { i with customData := i.customData.map CustomData.foldZeros }

theorem beq_iff {i j : StatusInfo} :
    (i == j) = true ↔ (i.customData == j.customData) = true ∧ i.reasonCode = j.reasonCode ∧
      i.additionalInfo = j.additionalInfo := by
  show (i.customData == j.customData &&
    (i.reasonCode == j.reasonCode && i.additionalInfo == j.additionalInfo)) = true ↔ _
  rw [Bool.and_eq_true, Bool.and_eq_true, beq_iff_eq (a := i.reasonCode),
    beq_iff_eq (a := i.additionalInfo)]

/-- Status information is equal when it is the same but for the signs of zeros in its custom data.
-/
theorem equalAt_foldZeros (i : StatusInfo) : EqualAt foldZeros i := by
  intro j
  have parts := equalAt_option (fun c _ => c.equalAt_foldZeros) (x := i.customData) j.customData
  rw [beq_iff, parts, foldZeros, foldZeros, mk.injEq]

theorem valid_foldZeros (i : StatusInfo) : Validated.valid i.foldZeros = Validated.valid i := by
  have part : (i.customData.map CustomData.foldZeros).all Validated.valid =
      i.customData.all Validated.valid := by
    rcases i.customData with - | c
    · rfl
    · exact c.valid_foldZeros
  show ((i.customData.map CustomData.foldZeros).all Validated.valid && _ && _) = _
  rw [part]
  rfl

theorem ordered_foldZeros {i : StatusInfo} (h : i.Ordered) : i.foldZeros.Ordered := by
  intro c there
  rcases Option.map_eq_some_iff.1 there with ⟨old, before, rfl⟩
  exact CustomData.ordered_foldZeros (h old before)

theorem fingerprint_foldZeros (i : StatusInfo) :
    Fingerprint.items i.foldZeros = Fingerprint.items i := by
  have part : Fingerprint.items (i.customData.map CustomData.foldZeros) =
      Fingerprint.items i.customData := by
    rcases i.customData with - | c
    · rfl
    · exact congrArg (Fingerprint.Item.alternative 1 :: ·) c.fingerprint_foldZeros
  show Fingerprint.items (i.customData.map CustomData.foldZeros) ++ _ ++ _ = _
  rw [part]
  rfl

theorem write_foldZeros (i : StatusInfo) : i.foldZeros.write = i.write.foldZeros := by
  rcases i with ⟨customData, reasonCode, additionalInfo⟩
  rcases customData with - | c
  · cases additionalInfo <;> rfl
  · have part := c.write_foldZeros
    cases additionalInfo with
    | none => exact congrArg (fun v => Json.object [("customData", v), _]) part
    | some text => exact congrArg (fun v => Json.object [("customData", v), _, _]) part

end StatusInfo

end ChargePoint
