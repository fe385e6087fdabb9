import ChargePoint.Proofs.Json.Tree

/-!
# Trees without repeated names

A tree as it is written may repeat a name in an object, and then the order of its members counts.
Where no name is repeated, at any level, the order says nothing: two such trees that differ only in
the order of members stand for one value.

## Main definitions

* `Json.Distinct`: no object of the tree repeats a name.
* `Json.Reorders`: the same tree but for the order of members, at any level.

## Main results

* `Keyed.ofList_eq_of_perm`: collecting by name does not look at the order.
* `Keyed.ofList_perm`: collecting by name loses nothing where names are distinct.
* `Json.Reorders.canonical_eq`: trees that differ in the order of members stand for one value.
* `Json.reorders_canonical_iff`: the value of a tree is the tree but for the order of members,
  exactly if no name is repeated.
-/

namespace ChargePoint

namespace Keyed

variable {α : Type} {entries entries' : List (String × α)}

/-- Where names are distinct, a name finds the one pair that bears it. -/
theorem lookup_eq_some_iff_mem (distinct : (entries.map Prod.fst).Nodup) {name : String}
    {value : α} : entries.lookup name = some value ↔ (name, value) ∈ entries := by
  refine ⟨mem_of_lookup, fun member => ?_⟩
  induction entries with
  | nil => cases member
  | cons entry rest ih =>
    obtain ⟨other, kept⟩ := entry
    obtain ⟨fresh, others⟩ := List.nodup_cons.1 distinct
    rw [lookup_cons]
    rcases List.mem_cons.1 member with same | later
    · cases same
      rw [if_pos rfl]
    · have different : name ≠ other := by
        rintro rfl
        exact fresh (List.mem_map.2 ⟨_, later, rfl⟩)
      rw [if_neg different]
      exact ih others later

/-- **Collecting by name does not look at the order** of pairs with distinct names. -/
theorem ofList_eq_of_perm (distinct : (entries.map Prod.fst).Nodup) (h : entries.Perm entries') :
    ofList entries = ofList entries' := by
  have distinct' : (entries'.map Prod.fst).Nodup := (h.map Prod.fst).nodup_iff.1 distinct
  refine ext (ascending_ofList _) (ascending_ofList _) fun name => Option.ext fun value => ?_
  rw [lookup_ofList distinct, lookup_ofList distinct', lookup_eq_some_iff_mem distinct,
    lookup_eq_some_iff_mem distinct', h.mem_iff]

/-- **Collecting by name loses nothing** of pairs with distinct names. -/
theorem ofList_perm (distinct : (entries.map Prod.fst).Nodup) : (ofList entries).Perm entries := by
  have collected := nodup_of_ascending (ascending_ofList entries)
  have pairs {entries : List (String × α)} (names : (entries.map Prod.fst).Nodup) : entries.Nodup :=
    List.Pairwise.of_map Prod.fst (fun _ _ different => mt (congrArg Prod.fst) different) names
  apply (List.perm_ext_iff_of_nodup (pairs collected) (pairs distinct)).2
  rintro ⟨name, value⟩
  rw [← lookup_eq_some_iff_mem collected, ← lookup_eq_some_iff_mem distinct, lookup_ofList distinct]

/-- Nothing but one pair is collected from nothing but that pair. -/
theorem ofList_eq_singleton_iff (distinct : (entries.map Prod.fst).Nodup) {entry : String × α} :
    ofList entries = [entry] ↔ entries = [entry] := by
  refine ⟨fun h => ?_, fun h => by rw [h]; rfl⟩
  have named : ∀ other ∈ entries, other.1 = entry.1 := by
    intro other member
    have found := (lookup_eq_some_iff_mem distinct).2 member
    rw [← lookup_ofList distinct, h] at found
    exact congrArg Prod.fst (List.mem_singleton.1 (mem_of_lookup found))
  match entries with
  | [] => cases h
  | [_] => exact h
  | first :: second :: rest =>
    have same : first.1 = second.1 := (named first (by simp)).trans (named second (by simp)).symm
    simp [same] at distinct

end Keyed

namespace Json

mutual

/-- **No object of the tree repeats a name.** -/
def Distinct : Json → Prop
  | array items => DistinctItems items
  | object members => (members.map Prod.fst).Nodup ∧ DistinctMembers members
  | _ => True

/-- No item of an array repeats a name. -/
def DistinctItems : List Json → Prop
  | [] => True
  | item :: rest => Distinct item ∧ DistinctItems rest

/-- No value of an object repeats a name. -/
def DistinctMembers : List (String × Json) → Prop
  | [] => True
  | (_, value) :: rest => Distinct value ∧ DistinctMembers rest

end

/-- **The same tree but for the order of members**: members change places in one object or another,
at any level, any number of times. -/
inductive Reorders : Json → Json → Prop
  | refl (v : Json) : Reorders v v
  | trans {u v w : Json} (first : Reorders u v) (second : Reorders v w) : Reorders u w
  | members {entries entries' : List (String × Json)} (perm : entries.Perm entries') :
    Reorders (object entries) (object entries')
  | item {before after : List Json} {v w : Json} (inner : Reorders v w) :
    Reorders (array (before ++ v :: after)) (array (before ++ w :: after))
  | value {before after : List (String × Json)} {name : String} {v w : Json}
    (inner : Reorders v w) :
    Reorders (object (before ++ (name, v) :: after)) (object (before ++ (name, w) :: after))

/-! ### Distinct names -/

theorem distinctItems_iff {items : List Json} :
    DistinctItems items ↔ ∀ item ∈ items, item.Distinct := by
  induction items with
  | nil => simp [DistinctItems]
  | cons item rest ih => rw [DistinctItems, ih, List.forall_mem_cons]

theorem distinctMembers_iff {members : List (String × Json)} :
    DistinctMembers members ↔ ∀ entry ∈ members, entry.2.Distinct := by
  induction members with
  | nil => simp [DistinctMembers]
  | cons entry rest ih =>
    obtain ⟨name, value⟩ := entry
    rw [DistinctMembers, ih, List.forall_mem_cons]

theorem distinct_array_iff {items : List Json} :
    (array items).Distinct ↔ ∀ item ∈ items, item.Distinct := by
  rw [Distinct, distinctItems_iff]

theorem distinct_object_iff {members : List (String × Json)} :
    (object members).Distinct ↔
      (members.map Prod.fst).Nodup ∧ ∀ entry ∈ members, entry.2.Distinct := by
  rw [Distinct, distinctMembers_iff]

theorem Distinct.nodup {members : List (String × Json)} (h : (object members).Distinct) :
    (members.map Prod.fst).Nodup := (distinct_object_iff.1 h).1

/-- The names are the same, and so as distinct, when the values are brought in order. -/
theorem Distinct.nodup_canonical {members : List (String × Json)} (h : (object members).Distinct) :
    ((Keyed.mapValues canonical members).map Prod.fst).Nodup := by
  rw [Keyed.map_fst_mapValues]
  exact h.nodup

theorem Distinct.of_lookup {members : List (String × Json)} (h : (object members).Distinct)
    {name : String} {value : Json} (found : members.lookup name = some value) : value.Distinct :=
  (distinct_object_iff.1 h).2 _ (Keyed.mem_of_lookup found)

/-- What is listed in the value of an object are the values of what is listed in it. -/
theorem Distinct.lookup_canonical {members : List (String × Json)} (h : (object members).Distinct)
    (name : String) : (Keyed.ofList (Keyed.mapValues canonical members)).lookup name =
      (members.lookup name).map canonical := by
  rw [Keyed.lookup_ofList h.nodup_canonical, Keyed.lookup_mapValues]

/-! ### Reordering -/

namespace Reorders

variable {v w : Json}

/-- Names that are distinct are so in any order. -/
theorem distinct (h : Reorders v w) : v.Distinct → w.Distinct := by
  induction h with
  | refl v => exact id
  | trans first second ih ih' => exact fun distinct => ih' (ih distinct)
  | members perm =>
    intro distinct
    obtain ⟨names, inner⟩ := distinct_object_iff.1 distinct
    refine distinct_object_iff.2 ⟨(perm.map Prod.fst).nodup_iff.1 names, fun entry member => ?_⟩
    exact inner entry (perm.mem_iff.2 member)
  | item inner ih =>
    intro distinct
    simp only [distinct_array_iff, List.forall_mem_append, List.forall_mem_cons] at distinct ⊢
    exact ⟨distinct.1, ih distinct.2.1, distinct.2.2⟩
  | value inner ih =>
    intro distinct
    simp only [distinct_object_iff, List.map_append, List.map_cons, List.forall_mem_append,
      List.forall_mem_cons] at distinct ⊢
    exact ⟨distinct.1, distinct.2.1, ih distinct.2.2.1, distinct.2.2.2⟩

/-- **Trees that differ in the order of members stand for one value**, if no name is repeated. -/
theorem canonical_eq (h : Reorders v w) : v.Distinct → v.canonical = w.canonical := by
  induction h with
  | refl v => exact fun _ => rfl
  | trans first second ih ih' =>
    exact fun distinct => (ih distinct).trans (ih' (first.distinct distinct))
  | members perm =>
    intro distinct
    rw [canonical_object, canonical_object]
    exact congrArg object (Keyed.ofList_eq_of_perm distinct.nodup_canonical (perm.map _))
  | item inner ih =>
    intro distinct
    simp only [distinct_array_iff, List.forall_mem_append, List.forall_mem_cons] at distinct
    rw [canonical_array, canonical_array, List.map_append, List.map_append, List.map_cons,
      List.map_cons, ih distinct.2.1]
  | value inner ih =>
    intro distinct
    simp only [distinct_object_iff, List.forall_mem_append, List.forall_mem_cons] at distinct
    simp only [canonical_object, Keyed.mapValues, List.map_append, List.map_cons,
      ih distinct.2.2.1]

theorem symm (h : Reorders v w) : Reorders w v := by
  induction h with
  | refl v => exact .refl v
  | trans first second ih ih' => exact ih'.trans ih
  | members perm => exact .members perm.symm
  | item inner ih => exact .item ih
  | value inner ih => exact .value ih

theorem items {f : Json → Json} {items : List Json}
    (each : ∀ item ∈ items, item.Reorders (f item)) :
    (array items).Reorders (array (items.map f)) := by
  have step (before : List Json) :
      (array (before ++ items)).Reorders (array (before ++ items.map f)) := by
    induction items generalizing before with
    | nil => exact .refl _
    | cons item rest ih =>
      rw [List.forall_mem_cons] at each
      have later := ih each.2 (before ++ [f item])
      rw [List.append_assoc, List.append_assoc] at later
      exact (Reorders.item each.1).trans later
  exact step []

theorem values {f : Json → Json} {entries : List (String × Json)}
    (each : ∀ entry ∈ entries, entry.2.Reorders (f entry.2)) :
    (object entries).Reorders (object (Keyed.mapValues f entries)) := by
  have step (before : List (String × Json)) :
      (object (before ++ entries)).Reorders (object (before ++ Keyed.mapValues f entries)) := by
    induction entries generalizing before with
    | nil => exact .refl _
    | cons entry rest ih =>
      rw [List.forall_mem_cons] at each
      have later := ih each.2 (before ++ [(entry.1, f entry.2)])
      rw [List.append_assoc, List.append_assoc] at later
      exact (Reorders.value each.1).trans later
  exact step []

end Reorders

/-! ### What collecting keeps -/

/-- Names that ascend are distinct. -/
theorem Canonical.distinct {v : Json} (h : v.Canonical) : v.Distinct := by
  induction v using inductionOn with
  | null => trivial
  | bool b => trivial
  | number n => trivial
  | string s => trivial
  | array items ih =>
    rw [canonical_array_iff] at h
    exact distinct_array_iff.2 fun item member => ih item member (h item member)
  | object members ih =>
    rcases canonical_object_iff.1 h with ⟨-, inner⟩
    exact distinct_object_iff.2 ⟨h.nodup, fun entry member => ih entry member (inner entry member)⟩

/-- **The value of a tree is the tree in another order**, unless a name is repeated. -/
theorem reorders_canonical {v : Json} (h : v.Distinct) : v.Reorders v.canonical := by
  induction v using inductionOn with
  | null => exact .refl _
  | bool b => exact .refl _
  | number n => exact .refl _
  | string s => exact .refl _
  | array items ih =>
    rw [distinct_array_iff] at h
    rw [canonical_array]
    exact .items fun item member => ih item member (h item member)
  | object members ih =>
    rcases distinct_object_iff.1 h with ⟨-, inner⟩
    rw [canonical_object]
    have values := Reorders.values fun entry member => ih entry member (inner entry member)
    exact values.trans (.members (Keyed.ofList_perm h.nodup_canonical).symm)

/-- **The value of a tree is the tree but for the order of members**, exactly if the tree repeats no
name: otherwise something has been lost. -/
theorem reorders_canonical_iff {v : Json} : v.Reorders v.canonical ↔ v.Distinct := by
  constructor
  · intro reorders
    exact reorders.symm.distinct (canonical_canonical v).distinct
  · exact reorders_canonical

end Json

end ChargePoint
