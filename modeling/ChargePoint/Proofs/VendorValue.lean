import ChargePoint.Proofs.Json.Tree
import ChargePoint.VendorValue

/-!
# Vendor values and the trees that say the same

Reading a vendor value by trying one alternative after another comes to the same as converting the
whole tree, so it never fails; what is read keeps its names in order at every level.  A value with
its names in order is read back from its own payload, and is equal to itself.

## Main results

* `VendorValue.inductionOn`: induction on vendor values.
* `VendorValue.read_eq`: reading is conversion.
* `VendorValue.ordered_ofJson`: what is read is in order.
* `VendorValue.ofJson_canonical_write`: what is written reads back.
* `VendorValue.beq_self`: a value is equal to itself.
-/

namespace ChargePoint

namespace VendorValue

/-- **Induction on vendor values.** -/
@[elab_as_elim] theorem inductionOn {motive : VendorValue → Prop} (value : VendorValue)
    (null : motive null) (bool : ∀ b, motive (bool b)) (number : ∀ n, motive (number n))
    (string : ∀ s, motive (string s))
    (array : ∀ items, (∀ item ∈ items, motive item) → motive (array items))
    (object : ∀ members, (∀ entry ∈ members, motive entry.2) → motive (object members)) :
    motive value :=
  match value with
  | .null => null
  | .bool b => bool b
  | .number n => number n
  | .string s => string s
  | .array items => array items fun item member =>
    have := List.sizeOf_lt_of_mem member
    inductionOn item null bool number string array object
  | .object members => object members fun entry member =>
    have := List.sizeOf_lt_of_mem member
    inductionOn entry.2 null bool number string array object
termination_by sizeOf value
decreasing_by
  · simp only [VendorValue.array.sizeOf_spec]
    omega
  · obtain ⟨name, value⟩ := entry
    simp only [VendorValue.object.sizeOf_spec, Prod.mk.sizeOf_spec] at this ⊢
    omega

/-! ### The recursions of the parts -/

theorem ofItems_eq_map (items : List Json) : ofItems items = items.map ofJson := by
  induction items with
  | nil => rfl
  | cons item rest ih => rw [ofItems, ih, List.map_cons]

theorem ofMembers_eq_mapValues (members : List (String × Json)) :
    ofMembers members = Keyed.mapValues ofJson members := by
  induction members with
  | nil => rfl
  | cons entry rest ih => rw [ofMembers, ih, Keyed.mapValues_cons]

theorem writeItems_eq_map (items : List VendorValue) : writeItems items = items.map write := by
  induction items with
  | nil => rfl
  | cons item rest ih => rw [writeItems, ih, List.map_cons]

theorem writeMembers_eq_mapValues (members : List (String × VendorValue)) :
    writeMembers members = Keyed.mapValues write members := by
  induction members with
  | nil => rfl
  | cons entry rest ih => rw [writeMembers, ih, Keyed.mapValues_cons]

theorem orderedItems_iff {items : List VendorValue} :
    OrderedItems items ↔ ∀ item ∈ items, item.Ordered := by
  induction items with
  | nil => simp [OrderedItems]
  | cons item rest ih => rw [OrderedItems, ih, List.forall_mem_cons]

theorem orderedMembers_iff {members : List (String × VendorValue)} :
    OrderedMembers members ↔ ∀ entry ∈ members, entry.2.Ordered := by
  induction members with
  | nil => simp [OrderedMembers]
  | cons entry rest ih =>
    obtain ⟨name, value⟩ := entry
    rw [OrderedMembers, ih, List.forall_mem_cons]

theorem ordered_array_iff {items : List VendorValue} :
    (array items).Ordered ↔ ∀ item ∈ items, item.Ordered := by
  rw [Ordered, orderedItems_iff]

theorem ordered_object_iff {members : List (String × VendorValue)} :
    (object members).Ordered ↔
      Keyed.Ascending members ∧ ∀ entry ∈ members, entry.2.Ordered := by
  rw [Ordered, orderedMembers_iff]

/-! ### Reading is conversion -/

/-- Items are read as they are converted, once each is: the induction on trees supplies that. -/
theorem readItems?_eq {items : List Json} (h : ∀ item ∈ items, read? item = some (ofJson item)) :
    readItems? items = some (items.map ofJson) := by
  -- what the items are read as is a hypothesis: the induction on trees will supply it
  induction items with
  | nil => rfl
  | cons item rest ih =>
    obtain ⟨head, tail⟩ := List.forall_mem_cons.1 h
    rw [readItems?, head, ih tail]
    rfl

/-- Members are read as they are converted, into any collection of those before them. -/
theorem readMembers?_eq {members : List (String × Json)}
    (h : ∀ entry ∈ members, read? entry.2 = some (ofJson entry.2))
    (collected : List (String × VendorValue)) :
    readMembers? members collected =
      some ((Keyed.mapValues ofJson members).foldl
        (fun collected entry => Keyed.insert entry.1 entry.2 collected) collected) := by
  induction members generalizing collected with
  | nil => rfl
  | cons entry rest ih =>
    obtain ⟨head, tail⟩ := List.forall_mem_cons.1 h
    obtain ⟨name, value⟩ := entry
    rw [readMembers?, head]
    exact ih tail _

/-- **Reading and converting agree**: an alternative that fits is met first, since those before it
look for other constructors. -/
theorem read?_eq (v : Json) : read? v = some (ofJson v) := by
  induction v using Json.inductionOn with
  | null => rfl
  | bool b => rfl
  | number n => rfl
  | string s => rfl
  | array items ih =>
    rw [read?, readItems?_eq ih, ofJson, ofItems_eq_map]
    rfl
  | object members ih =>
    rw [read?, readMembers?_eq ih, ofJson, ofMembers_eq_mapValues]
    rfl

/-- **Reading is conversion**, and so never fails. -/
theorem read_eq (v : Json) : read v = .ok (ofJson v) := by
  rw [read, read?_eq]

/-- Only `null` is read as `null`. -/
theorem isNull_iff {value : VendorValue} : value.isNull = true ↔ value = .null := by
  cases value <;> simp [isNull]

theorem isNull_ofJson (v : Json) : (ofJson v).isNull = v.isNull := by
  cases v <;> rfl

theorem isNull_write (value : VendorValue) : value.write.isNull = value.isNull := by
  cases value <;> rfl

/-- **What is read is in order**, whatever the tree. -/
theorem ordered_ofJson (v : Json) : (ofJson v).Ordered := by
  induction v using Json.inductionOn with
  | null => trivial
  | bool b => trivial
  | number n => trivial
  | string s => trivial
  | array items ih =>
    rw [ofJson, ofItems_eq_map, ordered_array_iff]
    intro item member
    obtain ⟨old, ho, rfl⟩ := List.mem_map.1 member
    exact ih old ho
  | object members ih =>
    rw [ofJson, ofMembers_eq_mapValues, ordered_object_iff]
    refine ⟨Keyed.ascending_ofList _, fun entry member => ?_⟩
    obtain ⟨old, ho, rfl⟩ := Keyed.mem_mapValues_iff.1 (Keyed.mem_of_mem_ofList member)
    exact ih old ho

/-- What is read is in order. -/
theorem ordered_of_read {v : Json} {value : VendorValue} (h : read v = .ok value) :
    value.Ordered := by
  rw [read_eq] at h
  cases h
  exact ordered_ofJson v

theorem ordered_nil : (object []).Ordered := ordered_object_iff.2 ⟨Keyed.ascending_nil, nofun⟩

theorem ordered_insert {name : String} {value : VendorValue}
    {members : List (String × VendorValue)} (h : (object members).Ordered)
    (hv : value.Ordered) : (object (Keyed.insert name value members)).Ordered := by
  obtain ⟨ascending, inner⟩ := ordered_object_iff.1 h
  refine ordered_object_iff.2 ⟨Keyed.ascending_insert name value ascending, ?_⟩
  intro entry member
  rcases Keyed.mem_insert member with rfl | old
  · exact hv
  · exact inner entry old

/-! ### Writing and reading back -/

/-- **What is written reads back**, where the names are in order. -/
theorem ofJson_canonical_write {value : VendorValue} (h : value.Ordered) :
    ofJson value.write.canonical = value := by
  induction value using inductionOn with
  | null => rfl
  | bool b => rfl
  | number n => rfl
  | string s => rfl
  | array items ih =>
    rw [ordered_array_iff] at h
    have back : items.map ((ofJson ∘ Json.canonical) ∘ write) = items.map id :=
      List.map_congr_left fun item member => ih item member (h item member)
    rw [write, writeItems_eq_map, Json.canonical_array, ofJson, ofItems_eq_map, List.map_map,
      List.map_map, back, List.map_id]
  | object members ih =>
    rw [ordered_object_iff] at h
    have written : Keyed.Ascending (Keyed.mapValues write members) :=
      (Keyed.ascending_mapValues_iff _).2 h.1
    -- three changes of values under the same names, of which only the order could have gone wrong
    rw [write, writeMembers_eq_mapValues, Json.canonical_object_of_ascending written, ofJson,
      ofMembers_eq_mapValues, Keyed.mapValues_mapValues, Keyed.mapValues_mapValues,
      Keyed.mapValues_eq_self fun entry member => ih entry member (h.2 entry member),
      Keyed.ofList_eq_self h.1]

/-- A canonical tree is written as it was read: its names ascend, so collecting moves nothing. -/
theorem write_ofJson {v : Json} (canonical : v.Canonical) : (ofJson v).write = v := by
  induction v using Json.inductionOn with
  | null => rfl
  | bool b => rfl
  | number n => rfl
  | string s => rfl
  | array items ih =>
    rw [Json.canonical_array_iff] at canonical
    have back : items.map (write ∘ ofJson) = items.map id :=
      List.map_congr_left fun item member => ih item member (canonical item member)
    rw [ofJson, ofItems_eq_map, write, writeItems_eq_map, List.map_map, back, List.map_id]
  | object members ih =>
    obtain ⟨ascending, inner⟩ := Json.canonical_object_iff.1 canonical
    rw [ofJson, ofMembers_eq_mapValues,
      Keyed.ofList_eq_self ((Keyed.ascending_mapValues_iff ofJson).2 ascending), write,
      writeMembers_eq_mapValues, Keyed.mapValues_mapValues,
      Keyed.mapValues_eq_self fun entry member => ih entry member (inner entry member)]

theorem canonical_write_ofJson {v : Json} (canonical : v.Canonical) :
    (ofJson v).write.canonical = v := by
  rw [write_ofJson canonical, Json.canonical_of_canonical canonical]

/-! ### Equality -/

theorem number_beq_self (n : Number) : (n == n) = true := by
  cases n with
  | whole n => exact beq_self_eq_true n
  | float x =>
    show (x == x || (x.isZero && x.isZero)) = true
    rw [beq_self_eq_true, Bool.true_or]

/-- A value is equal to itself. -/
theorem beq_self (value : VendorValue) : VendorValue.beq value value = true := by
  induction value using inductionOn with
  | null => rfl
  | bool b => exact beq_self_eq_true b
  | number n => exact number_beq_self n
  | string s => exact beq_self_eq_true s
  | array items ih =>
    rw [VendorValue.beq]
    induction items with
    | nil => rfl
    | cons item rest later =>
      obtain ⟨head, tail⟩ := List.forall_mem_cons.1 ih
      rw [VendorValue.beqItems, head, later tail, Bool.true_and]
  | object members ih =>
    rw [VendorValue.beq]
    induction members with
    | nil => rfl
    | cons entry rest later =>
      obtain ⟨head, tail⟩ := List.forall_mem_cons.1 ih
      obtain ⟨name, value⟩ := entry
      rw [VendorValue.beqMembers, head, later tail, beq_self_eq_true, Bool.true_and,
        Bool.true_and]

instance : ReflBEq VendorValue := ⟨fun {value} => beq_self value⟩

end VendorValue

end ChargePoint
