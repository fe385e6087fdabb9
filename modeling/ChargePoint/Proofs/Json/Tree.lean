import ChargePoint.Json.Basic
import ChargePoint.Proofs.Keyed

/-!
# Trees and canonical trees

A tree is worked through from its leaves: what holds of an array or object whenever it holds of its
parts holds of every tree.  The canonical form of a tree is canonical, and a canonical tree is its
own canonical form, so taking the value that a written tree stands for is a projection.

## Main results

* `Json.inductionOn`: induction on trees, with the parts of a node as hypotheses.
* `Json.canonical_of_canonical`: a canonical tree is its own value.
* `Json.canonical_canonical`: the value of a tree is canonical.
-/

namespace ChargePoint

namespace Json

/-- **Induction on trees.** -/
@[elab_as_elim] theorem inductionOn {motive : Json → Prop} (v : Json) (null : motive null)
    (bool : ∀ b, motive (bool b)) (number : ∀ n, motive (number n))
    (string : ∀ s, motive (string s))
    (array : ∀ items, (∀ item ∈ items, motive item) → motive (array items))
    (object : ∀ members, (∀ entry ∈ members, motive entry.2) → motive (object members)) :
    motive v :=
  match v with
  | .null => null
  | .bool b => bool b
  | .number n => number n
  | .string s => string s
  | .array items => array items fun item member =>
    have := List.sizeOf_lt_of_mem member
    inductionOn item null bool number string array object
  | .object members => object members fun entry member =>
    have := List.sizeOf_lt_of_mem member
    inductionOn entry.2 null bool number string array object
termination_by sizeOf v
decreasing_by
  · simp only [Json.array.sizeOf_spec]
    omega
  · obtain ⟨name, value⟩ := entry
    simp only [Json.object.sizeOf_spec, Prod.mk.sizeOf_spec] at this ⊢
    omega

/-! ### Canonical trees -/

theorem canonicalItems_iff {items : List Json} :
    CanonicalItems items ↔ ∀ item ∈ items, item.Canonical := by
  induction items with
  | nil => simp [CanonicalItems]
  | cons item rest ih => rw [CanonicalItems, ih, List.forall_mem_cons]

theorem canonicalMembers_iff {members : List (String × Json)} :
    CanonicalMembers members ↔ ∀ entry ∈ members, entry.2.Canonical := by
  induction members with
  | nil => simp [CanonicalMembers]
  | cons entry rest ih =>
    obtain ⟨name, value⟩ := entry
    rw [CanonicalMembers, ih, List.forall_mem_cons]

theorem canonical_array_iff {items : List Json} :
    (array items).Canonical ↔ ∀ item ∈ items, item.Canonical := by
  rw [Canonical, canonicalItems_iff]

theorem canonical_object_iff {members : List (String × Json)} :
    (object members).Canonical ↔
      Keyed.Ascending members ∧ ∀ entry ∈ members, entry.2.Canonical := by
  rw [Canonical, canonicalMembers_iff]

theorem Canonical.of_lookup {members : List (String × Json)} (h : (object members).Canonical)
    {name : String} {value : Json} (found : members.lookup name = some value) :
    value.Canonical :=
  (canonical_object_iff.1 h).2 _ (Keyed.mem_of_lookup found)

/-- No name is repeated in a canonical object. -/
theorem Canonical.nodup {members : List (String × Json)} (h : (object members).Canonical) :
    (members.map Prod.fst).Nodup :=
  Keyed.nodup_of_ascending (canonical_object_iff.1 h).1

/-! ### The value of a tree -/

theorem canonicalItems_eq_map (items : List Json) :
    canonicalItems items = items.map canonical := by
  induction items with
  | nil => rfl
  | cons item rest ih => rw [canonicalItems, ih, List.map_cons]

theorem canonicalMembers_eq_mapValues (members : List (String × Json)) :
    canonicalMembers members = Keyed.mapValues canonical members := by
  induction members with
  | nil => rfl
  | cons entry rest ih => rw [canonicalMembers, ih, Keyed.mapValues_cons]

theorem canonical_array (items : List Json) :
    canonical (array items) = array (items.map canonical) := by
  rw [canonical, canonicalItems_eq_map]

theorem canonical_object (members : List (String × Json)) :
    canonical (object members) = object (Keyed.ofList (Keyed.mapValues canonical members)) := by
  rw [canonical, canonicalMembers_eq_mapValues]

/-- Members that are in order stay where they are. -/
theorem canonical_object_of_ascending {members : List (String × Json)}
    (h : Keyed.Ascending members) :
    canonical (object members) = object (Keyed.mapValues canonical members) := by
  rw [canonical_object, Keyed.ofList_eq_self ((Keyed.ascending_mapValues_iff _).2 h)]

/-- **A canonical tree is its own value.** -/
theorem canonical_of_canonical {v : Json} (h : v.Canonical) : v.canonical = v := by
  induction v using inductionOn with
  | null => rfl
  | bool b => rfl
  | number n => rfl
  | string s => rfl
  | array items ih =>
    rw [canonical_array_iff] at h
    rw [canonical_array, List.map_congr_left fun item member => ih item member (h item member),
      List.map_id']
  | object members ih =>
    rw [canonical_object_iff] at h
    rw [canonical_object_of_ascending h.1,
      Keyed.mapValues_eq_self fun entry member => ih entry member (h.2 entry member)]

/-- **The value of a tree is canonical.** -/
theorem canonical_canonical (v : Json) : v.canonical.Canonical := by
  induction v using inductionOn with
  | null => trivial
  | bool b => trivial
  | number n => trivial
  | string s => trivial
  | array items ih =>
    rw [canonical_array, canonical_array_iff]
    intro item member
    obtain ⟨old, ho, rfl⟩ := List.mem_map.1 member
    exact ih old ho
  | object members ih =>
    rw [canonical_object, canonical_object_iff]
    refine ⟨Keyed.ascending_ofList _, fun entry member => ?_⟩
    obtain ⟨old, ho, rfl⟩ := Keyed.mem_mapValues_iff.1 (Keyed.mem_of_mem_ofList member)
    exact ih old ho

/-- Only `null` has the value `null`. -/
theorem isNull_canonical (v : Json) : v.canonical.isNull = v.isNull := by
  cases v <;> rfl

end Json

end ChargePoint
