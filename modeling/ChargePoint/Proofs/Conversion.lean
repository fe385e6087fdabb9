import ChargePoint.Proofs.VendorValue

/-!
# Between vendor values and JSON values

Four ways lead between JSON values and vendor values: each is converted to the other, a vendor value
is read from a JSON value by trying one alternative after another, and it is written member by
member.  All four keep to one relation, that a value *mirrors* a tree: they have the same leaves,
numbers of the same kind among them, the same items in the same order, and the same members under
the same names.  Between values and trees whose names are in order that relation is a
bijection, and the compact text of a value is that of the tree it writes.

## Main definitions

* `VendorValue.Mirrors`: a value and a tree of the same form and content.

## Main results

* `VendorValue.mirrors_iff`: a value mirrors what it writes.
* `VendorValue.toJson_eq_canonical_write`: conversion collects what is written by name.
* `conversions_agree`: the four ways, and the text.
-/

namespace ChargePoint

namespace VendorValue

/-! ### Mirroring -/

mutual

/-- **A value mirrors a tree**: leaf by leaf, item by item and member by member. -/
inductive Mirrors : VendorValue → Json → Prop
  | null : Mirrors null .null
  | bool (b : Bool) : Mirrors (bool b) (.bool b)
  | number (n : Number) : Mirrors (number n) (.number n)
  | string (s : String) : Mirrors (string s) (.string s)
  | array {items : List VendorValue} {trees : List Json} (each : MirrorsItems items trees) :
    Mirrors (array items) (.array trees)
  | object {members : List (String × VendorValue)} {entries : List (String × Json)}
    (each : MirrorsMembers members entries) : Mirrors (object members) (.object entries)

/-- The items of an array mirror those of another, one by one. -/
inductive MirrorsItems : List VendorValue → List Json → Prop
  | nil : MirrorsItems [] []
  | cons {item : VendorValue} {tree : Json} {items : List VendorValue} {trees : List Json}
    (first : Mirrors item tree) (rest : MirrorsItems items trees) :
    MirrorsItems (item :: items) (tree :: trees)

/-- The members of an object mirror those of another, one by one and name by name. -/
inductive MirrorsMembers : List (String × VendorValue) → List (String × Json) → Prop
  | nil : MirrorsMembers [] []
  | cons {name : String} {value : VendorValue} {tree : Json}
    {members : List (String × VendorValue)} {entries : List (String × Json)}
    (first : Mirrors value tree) (rest : MirrorsMembers members entries) :
    MirrorsMembers ((name, value) :: members) ((name, tree) :: entries)

end

theorem mirrorsItems_iff {items : List VendorValue} {trees : List Json}
    (each : ∀ item ∈ items, ∀ tree, item.Mirrors tree ↔ tree = item.write) :
    MirrorsItems items trees ↔ trees = writeItems items := by
  induction items generalizing trees with
  | nil =>
    constructor
    · rintro ⟨⟩
      rfl
    · rintro rfl
      exact .nil
  | cons item rest ih =>
    rw [List.forall_mem_cons] at each
    constructor
    · rintro (_ | ⟨first, later⟩)
      rw [writeItems, (each.1 _).1 first, (ih each.2).1 later]
    · rintro rfl
      exact .cons ((each.1 _).2 rfl) ((ih each.2).2 rfl)

theorem mirrorsMembers_iff {members : List (String × VendorValue)} {entries : List (String × Json)}
    (each : ∀ entry ∈ members, ∀ tree, entry.2.Mirrors tree ↔ tree = entry.2.write) :
    MirrorsMembers members entries ↔ entries = writeMembers members := by
  induction members generalizing entries with
  | nil =>
    constructor
    · rintro ⟨⟩
      rfl
    · rintro rfl
      exact .nil
  | cons entry rest ih =>
    rw [List.forall_mem_cons] at each
    constructor
    · rintro (_ | ⟨first, later⟩)
      rw [writeMembers, (each.1 _).1 first, (ih each.2).1 later]
    · rintro rfl
      exact .cons ((each.1 _).2 rfl) ((ih each.2).2 rfl)

/-- **A value mirrors what it writes**, and nothing else. -/
theorem mirrors_iff {value : VendorValue} {v : Json} : value.Mirrors v ↔ v = value.write := by
  induction value using inductionOn generalizing v with
  | null =>
    constructor
    · rintro ⟨⟩
      rfl
    · rintro rfl
      exact .null
  | bool b =>
    constructor
    · rintro ⟨⟩
      rfl
    · rintro rfl
      exact .bool b
  | number n =>
    constructor
    · rintro ⟨⟩
      rfl
    · rintro rfl
      exact .number n
  | string s =>
    constructor
    · rintro ⟨⟩
      rfl
    · rintro rfl
      exact .string s
  | array items ih =>
    have each (trees : List Json) : MirrorsItems items trees ↔ trees = writeItems items :=
      mirrorsItems_iff fun item member tree => ih item member
    constructor
    · rintro (_ | _ | _ | _ | mirrors | _)
      rw [write, (each _).1 mirrors]
    · rintro rfl
      exact .array ((each _).2 rfl)
  | object members ih =>
    have each (entries : List (String × Json)) :
        MirrorsMembers members entries ↔ entries = writeMembers members :=
      mirrorsMembers_iff fun entry member tree => ih entry member
    constructor
    · rintro (_ | _ | _ | _ | _ | mirrors)
      rw [write, (each _).1 mirrors]
    · rintro rfl
      exact .object ((each _).2 rfl)

/-! ### Conversion and writing -/

theorem toItems_eq_map (items : List VendorValue) : toItems items = items.map toJson := by
  induction items with
  | nil => rfl
  | cons item rest ih => rw [toItems, ih, List.map_cons]

theorem toMembers_eq_mapValues (members : List (String × VendorValue)) :
    toMembers members = Keyed.mapValues toJson members := by
  induction members with
  | nil => rfl
  | cons entry rest ih => rw [toMembers, ih, Keyed.mapValues_cons]

/-- **Conversion collects what is written** by name, at every level. -/
theorem toJson_eq_canonical_write (value : VendorValue) : value.toJson = value.write.canonical := by
  induction value using inductionOn with
  | null => rfl
  | bool b => rfl
  | number n => rfl
  | string s => rfl
  | array items ih =>
    rw [toJson, toItems_eq_map, write, writeItems_eq_map, Json.canonical_array, List.map_map]
    exact congrArg Json.array (List.map_congr_left ih)
  | object members ih =>
    have same : Keyed.mapValues toJson members =
        Keyed.mapValues (fun value => value.write.canonical) members := Keyed.mapValues_congr ih
    rw [toJson, toMembers_eq_mapValues, write, writeMembers_eq_mapValues, Json.canonical_object,
      Keyed.mapValues_mapValues, same]

/-- What is written of names in order is in order. -/
theorem canonical_write {value : VendorValue} (h : value.Ordered) : value.write.Canonical := by
  induction value using inductionOn with
  | null => trivial
  | bool b => trivial
  | number n => trivial
  | string s => trivial
  | array items ih =>
    rw [ordered_array_iff] at h
    rw [write, writeItems_eq_map, Json.canonical_array_iff]
    intro tree member
    rcases List.mem_map.1 member with ⟨item, there, rfl⟩
    exact ih item there (h item there)
  | object members ih =>
    rcases ordered_object_iff.1 h with ⟨ascending, inner⟩
    rw [write, writeMembers_eq_mapValues, Json.canonical_object_iff]
    refine ⟨(Keyed.ascending_mapValues_iff write).2 ascending, ?_⟩
    intro entry member
    rcases Keyed.mem_mapValues_iff.1 member with ⟨old, there, rfl⟩
    exact ih old there (inner old there)

/-- With names in order there is nothing to collect. -/
theorem toJson_eq_write {value : VendorValue} (h : value.Ordered) : value.toJson = value.write := by
  rw [toJson_eq_canonical_write, Json.canonical_of_canonical (canonical_write h)]

/-- A value in order comes back from its conversion. -/
theorem ofJson_toJson {value : VendorValue} (h : value.Ordered) : ofJson value.toJson = value := by
  rw [toJson_eq_canonical_write, ofJson_canonical_write h]

/-- A canonical tree comes back from its conversion. -/
theorem toJson_ofJson {v : Json} (canonical : v.Canonical) : (ofJson v).toJson = v := by
  rw [toJson_eq_canonical_write, canonical_write_ofJson canonical]

end VendorValue

/-- **The conversions of vendor values are one bijection**, between the JSON values and the values
whose names are in order.

* A JSON value is read, whatever its form and depth.  What is read is what it is converted to,
  mirrors it, and is converted back to it.
* A vendor value mirrors what it is converted to, which is converted back to it.  That is also
  what the value writes, and its compact text is the text of the value.
* A value and a tree that it mirrors determine one another, so there is but one way to keep the
  kinds of numbers, the order of items and all members. -/
theorem conversions_agree :
    (∀ v : Json, v.Canonical →
      VendorValue.read v = .ok (.ofJson v) ∧ (VendorValue.ofJson v).Ordered ∧
      (VendorValue.ofJson v).Mirrors v ∧ (VendorValue.ofJson v).toJson = v) ∧
    (∀ a : VendorValue, a.Ordered →
      a.toJson.Canonical ∧ a.Mirrors a.toJson ∧ .ofJson a.toJson = a ∧
      a.write = a.toJson ∧ a.write.canonical = a.toJson ∧ a.text = a.write.compact) ∧
    ∀ (a : VendorValue) (v : Json), a.Ordered → v.Canonical →
      (a.Mirrors v ↔ a = .ofJson v) ∧ (a.Mirrors v ↔ v = a.toJson) := by
  refine ⟨?_, ?_, ?_⟩
  · intro v canonical
    have mirrors : (VendorValue.ofJson v).Mirrors v :=
      VendorValue.mirrors_iff.2 (VendorValue.write_ofJson canonical).symm
    exact ⟨VendorValue.read_eq v, VendorValue.ordered_ofJson v, mirrors,
      VendorValue.toJson_ofJson canonical⟩
  · intro a ordered
    have written := VendorValue.toJson_eq_write ordered
    refine ⟨?_, VendorValue.mirrors_iff.2 written, VendorValue.ofJson_toJson ordered, written.symm,
      (VendorValue.toJson_eq_canonical_write a).symm, ?_⟩
    · rw [written]
      exact VendorValue.canonical_write ordered
    · rw [VendorValue.text, written]
  · intro a v ordered canonical
    have second : a.Mirrors v ↔ v = a.toJson := by
      rw [VendorValue.mirrors_iff, VendorValue.toJson_eq_write ordered]
    refine ⟨second.trans ⟨?_, ?_⟩, second⟩
    · rintro rfl
      exact (VendorValue.ofJson_toJson ordered).symm
    · rintro rfl
      exact (VendorValue.toJson_ofJson canonical).symm

/-- Empty containers and the kinds of numbers stay apart, `1` and `1.0` among them. -/
theorem conversions_agree_kinds :
    let one : Binary64 := ⟨false, 2 ^ (52 : Nat), -52, by decide⟩
    let whole (n : Int) (fits : -(2 ^ (63 : Nat)) ≤ n ∧ n < 2 ^ (64 : Nat)) : Number :=
      .whole ⟨n, fits⟩
    let v : Json := .object [("a", .array [.number (whole 1 (by decide)), .number (.float one),
      .number (whole (-1) (by decide)), .null]), ("b", .object []), ("c", .array [])]
    let a : VendorValue := .object [("a", .array [.number (whole 1 (by decide)),
      .number (.float one), .number (whole (-1) (by decide)), .null]), ("b", .object []),
      ("c", .array [])]
    v.Canonical ∧ a.Ordered ∧ VendorValue.read v = .ok a ∧ a.toJson = v ∧ a.Mirrors v ∧
      a.text = v.compact := by
  intro one whole v a
  have canonical : v.Canonical :=
    ⟨by decide, ⟨trivial, trivial, trivial, trivial, trivial⟩, ⟨Keyed.ascending_nil, trivial⟩,
      trivial, trivial⟩
  have ordered : a.Ordered :=
    ⟨by decide, ⟨trivial, trivial, trivial, trivial, trivial⟩, ⟨Keyed.ascending_nil, trivial⟩,
      trivial, trivial⟩
  have mirrors : a.Mirrors v := VendorValue.mirrors_iff.2 rfl
  obtain ⟨values, vendor, apart⟩ := conversions_agree
  obtain ⟨-, -, -, written, -, text⟩ := vendor a ordered
  obtain ⟨same, back⟩ := apart a v ordered canonical
  refine ⟨canonical, ordered, ?_, (back.1 mirrors).symm, mirrors, ?_⟩
  · rw [same.1 mirrors]
    exact (values v canonical).1
  · rw [text, written, back.1 mirrors]

end ChargePoint
