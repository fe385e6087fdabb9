import ChargePoint.Keyed

/-!
# Keyed lists and the pairs they are collected from

Collecting pairs whose names are distinct changes their order and nothing else, so what is looked up
in the collection is what was there before; collecting a keyed list gives it back.  Changing the
values of a list by a function of the value alone commutes with looking up and with collecting.

## Main results

* `Keyed.lookup_ofList`: looking up in a collection of pairs with distinct names.
* `Keyed.ofList_eq_self`: a keyed list collects to itself.
* `Keyed.mapValues`, `Keyed.lookup_mapValues`, `Keyed.ascending_mapValues_iff`: other values under
  the same names.
-/

namespace ChargePoint

namespace Keyed

variable {α β γ : Type}

/-! ### Names -/

theorem nodup_of_ascending {entries : List (String × α)} (h : Ascending entries) :
    (entries.map Prod.fst).Nodup := by
  rw [List.Nodup, List.pairwise_map]
  refine h.imp fun {left right} less same => ?_
  rw [same] at less
  exact String.lt_irrefl _ less

theorem lookup_eq_none_iff_notMem {name : String} {entries : List (String × α)} :
    entries.lookup name = none ↔ name ∉ entries.map Prod.fst := by
  induction entries with
  | nil => simp
  | cons entry rest ih =>
    obtain ⟨other, value⟩ := entry
    rw [lookup_cons]
    split
    · simp [*]
    · simp [*]

theorem mem_of_lookup {name : String} {value : α} {entries : List (String × α)}
    (h : entries.lookup name = some value) : (name, value) ∈ entries := by
  obtain ⟨before, after, rfl, -⟩ := List.lookup_eq_some_iff.1 h
  simp

/-! ### Collecting -/

/-- What has been collected was added, or was there before. -/
theorem mem_foldl_insert {added collected : List (String × α)} {entry : String × α}
    (h : entry ∈ added.foldl (fun collected entry => insert entry.1 entry.2 collected) collected) :
    entry ∈ added ∨ entry ∈ collected := by
  induction added generalizing collected with
  | nil => exact .inr h
  | cons first rest ih =>
    rcases ih h with later | old
    · exact .inl (List.mem_cons_of_mem _ later)
    · rcases mem_insert old with rfl | old
      · exact .inl List.mem_cons_self
      · exact .inr old

theorem mem_of_mem_ofList {entries : List (String × α)} {entry : String × α}
    (h : entry ∈ ofList entries) : entry ∈ entries := by
  rcases mem_foldl_insert h with h | h
  · exact h
  · simp at h

/-- A name has the value that was added for it, and else the one it had before. -/
theorem lookup_foldl_insert {added : List (String × α)} (distinct : (added.map Prod.fst).Nodup)
    (collected : List (String × α)) (name : String) :
    (added.foldl (fun collected entry => insert entry.1 entry.2 collected) collected).lookup name =
      (added.lookup name).or (collected.lookup name) := by
  induction added generalizing collected with
  | nil => simp
  | cons entry rest ih =>
    obtain ⟨other, value⟩ := entry
    obtain ⟨absent, distinct⟩ := List.nodup_cons.1 distinct
    rw [List.foldl_cons, ih distinct, lookup_insert, lookup_cons]
    by_cases same : name = other
    · subst same
      rw [if_pos rfl, if_pos rfl, lookup_eq_none_iff_notMem.2 absent, Option.none_or,
        Option.some_or]
    · rw [if_neg same, if_neg same]

/-- **Looking up in a collection** of pairs with distinct names finds what was collected. -/
theorem lookup_ofList {entries : List (String × α)} (distinct : (entries.map Prod.fst).Nodup)
    (name : String) : (ofList entries).lookup name = entries.lookup name := by
  rw [ofList, lookup_foldl_insert distinct, List.lookup_nil, Option.or_none]

/-- A keyed list collects to itself. -/
theorem ofList_eq_self {entries : List (String × α)} (h : Ascending entries) :
    ofList entries = entries :=
  ext (ascending_ofList entries) h (lookup_ofList (nodup_of_ascending h))

/-! ### Other values under the same names -/

/-- Change the values of a list, and keep its names. -/
def mapValues (f : α → β) (entries : List (String × α)) : List (String × β) :=
  entries.map fun entry => (entry.1, f entry.2)

@[simp] theorem mapValues_nil (f : α → β) : mapValues f [] = [] := rfl

@[simp] theorem mapValues_cons (f : α → β) (entry : String × α) (rest : List (String × α)) :
    mapValues f (entry :: rest) = (entry.1, f entry.2) :: mapValues f rest := rfl

@[simp] theorem map_fst_mapValues (f : α → β) (entries : List (String × α)) :
    (mapValues f entries).map Prod.fst = entries.map Prod.fst := by
  simp [mapValues]

theorem mem_mapValues_iff {f : α → β} {entries : List (String × α)} {entry : String × β} :
    entry ∈ mapValues f entries ↔ ∃ old ∈ entries, (old.1, f old.2) = entry :=
  List.mem_map

theorem mapValues_mapValues (f : α → β) (g : β → γ) (entries : List (String × α)) :
    mapValues g (mapValues f entries) = mapValues (fun value => g (f value)) entries := by
  simp [mapValues]

theorem mapValues_eq_self {f : α → α} {entries : List (String × α)}
    (h : ∀ entry ∈ entries, f entry.2 = entry.2) : mapValues f entries = entries := by
  rw [mapValues, List.map_congr_left fun entry member => by rw [h entry member], List.map_id']

theorem mapValues_congr {f g : α → β} {entries : List (String × α)}
    (h : ∀ entry ∈ entries, f entry.2 = g entry.2) : mapValues f entries = mapValues g entries :=
  List.map_congr_left fun entry member => by rw [h entry member]

/-- Inserting a value that is changed is changing the values after it was inserted. -/
theorem mapValues_insert (f : α → β) (name : String) (value : α) (entries : List (String × α)) :
    mapValues f (insert name value entries) = insert name (f value) (mapValues f entries) := by
  induction entries with
  | nil => rfl
  | cons entry rest ih =>
    simp only [insert, mapValues_cons]
    split
    · rfl
    · split
      · rfl
      · rw [mapValues_cons, ih]

/-- Values can be changed before or after they are collected. -/
theorem ofList_mapValues (f : α → β) (entries : List (String × α)) :
    ofList (mapValues f entries) = mapValues f (ofList entries) := by
  have each (collected : List (String × α)) :
      (mapValues f entries).foldl (fun collected entry => insert entry.1 entry.2 collected)
          (mapValues f collected) =
        mapValues f
          (entries.foldl (fun collected entry => insert entry.1 entry.2 collected) collected) := by
    -- on the pairs that are still to be collected, for any that have been
    induction entries generalizing collected with
    | nil => rfl
    | cons entry rest ih =>
      rw [mapValues_cons, List.foldl_cons, List.foldl_cons, ← ih, mapValues_insert]
  exact each []

theorem lookup_mapValues (f : α → β) (entries : List (String × α)) (name : String) :
    (mapValues f entries).lookup name = (entries.lookup name).map f := by
  induction entries with
  | nil => rfl
  | cons entry rest ih =>
    obtain ⟨other, value⟩ := entry
    rw [mapValues_cons, lookup_cons, lookup_cons, ih]
    split <;> rfl

/-- Values are changed in the light of their names. -/
theorem lookup_map_named (f : String → α → β) (entries : List (String × α)) (name : String) :
    (entries.map fun entry => (entry.1, f entry.1 entry.2)).lookup name =
      (entries.lookup name).map (f name) := by
  induction entries with
  | nil => rfl
  | cons entry rest ih =>
    obtain ⟨other, value⟩ := entry
    rw [List.map_cons, lookup_cons, lookup_cons, ih]
    split
    · subst name
      rfl
    · rfl

/-- Pairs are left out by their values. -/
theorem lookup_filter_value {entries : List (String × α)} (distinct : (entries.map Prod.fst).Nodup)
    (p : α → Bool) (name : String) :
    (entries.filter fun entry => p entry.2).lookup name = (entries.lookup name).filter p := by
  induction entries with
  | nil => rfl
  | cons entry rest ih =>
    obtain ⟨other, value⟩ := entry
    obtain ⟨fresh, others⟩ := List.nodup_cons.1 distinct
    have later := ih others
    rw [List.filter_cons, lookup_cons]
    by_cases same : name = other
    · subst same
      rw [lookup_eq_none_iff_notMem.2 fresh] at later
      rw [if_pos rfl]
      cases kept : p value with
      | true =>
        rw [Option.filter_some_pos kept]
        exact (lookup_cons ..).trans (if_pos rfl)
      | false =>
        rw [Option.filter_some_neg (by rw [kept])]
        exact later
    · rw [if_neg same, ← later]
      cases p value with
      | true => exact (lookup_cons ..).trans (if_neg same)
      | false => rfl

/-- Pairs of the names that have a value, looked up. -/
theorem lookup_filterMap_named (f : String → Option α) (names : List String) (name : String) :
    (names.filterMap fun other => (f other).map fun value => (other, value)).lookup name =
      if name ∈ names then f name else none := by
  induction names with
  | nil => rfl
  | cons first rest ih =>
    rw [List.filterMap_cons]
    cases there : f first with
    | none =>
      rw [Option.map_none, ih]
      by_cases same : name = first
      · simp [same, there]
      · simp [same]
    | some value =>
      rw [Option.map_some, lookup_cons, ih]
      by_cases same : name = first
      · simp [same, there]
      · simp [same]

/-- The names that have a value keep their order. -/
theorem sublist_filterMap_named (f : String → Option α) (names : List String) :
    ((names.filterMap fun name => (f name).map fun value => (name, value)).map Prod.fst).Sublist
      names := by
  induction names with
  | nil => exact .slnil
  | cons first rest ih =>
    rw [List.filterMap_cons]
    cases f first with
    | none => exact ih.cons first
    | some value => exact ih.cons_cons first

@[simp] theorem ascending_mapValues_iff (f : α → β) {entries : List (String × α)} :
    Ascending (mapValues f entries) ↔ Ascending entries :=
  List.pairwise_map

end Keyed

end ChargePoint
