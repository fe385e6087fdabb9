/-!
# Keyed lists

A collection of named values is a list of pairs whose names strictly ascend, so that two
collections with the same members are the same list and nothing depends on the order in which the
members arrived.  Names are compared by code point.

## Main definitions

* `Keyed.Ascending`: the names of a list strictly ascend.
* `Keyed.insert`: give a name a value, in place of the value it had.
* `Keyed.ofList`: collect pairs; of two pairs with one name the later counts.
* `Keyed.erase`: leave a name out.

## Main results

* `Keyed.ascending_insert`, `Keyed.ascending_ofList`, `Keyed.ascending_erase`: the order is kept.
* `Keyed.lookup_insert`: only the value of the name given changes.
* `Keyed.ext`: an ascending list is determined by the value it gives to each name.
-/

namespace ChargePoint

namespace Keyed

variable {α β : Type}

/-- The names of a list strictly ascend, and so are distinct. -/
def Ascending (entries : List (String × α)) : Prop :=
  entries.Pairwise fun left right => left.1 < right.1

instance (entries : List (String × α)) : Decidable (Ascending entries) :=
  inferInstanceAs (Decidable (entries.Pairwise fun left right => left.1 < right.1))

/-- Give `name` the value `value`, in place of any value it had. -/
def insert (name : String) (value : α) : List (String × α) → List (String × α)
  | [] => [(name, value)]
  | (other, kept) :: rest =>
    if name < other then (name, value) :: (other, kept) :: rest
    else if name = other then (name, value) :: rest
    else (other, kept) :: insert name value rest

/-- Collect pairs, first to last: of two with one name the later counts. -/
def ofList (entries : List (String × α)) : List (String × α) :=
  entries.foldl (fun collected entry => insert entry.1 entry.2 collected) []

/-- Leave `name` out. -/
def erase (name : String) (entries : List (String × α)) : List (String × α) :=
  entries.filter fun entry => entry.1 != name

/-! ### Looking up -/

theorem lookup_cons (name other : String) (value : α) (entries : List (String × α)) :
    ((name, value) :: entries).lookup other =
      if other = name then some value else entries.lookup other := by
  by_cases h : other = name
  · simp [h]
  · simp [List.lookup_cons, beq_false_of_ne h, h]

theorem lookup_insert (name other : String) (value : α) (entries : List (String × α)) :
    (insert name value entries).lookup other =
      if other = name then some value else entries.lookup other := by
  induction entries with
  | nil => simp [insert, lookup_cons]
  | cons entry rest ih =>
    obtain ⟨first, kept⟩ := entry
    simp only [insert]
    split
    · simp [lookup_cons]
    · split
      · rename_i same
        subst same
        simp [lookup_cons]
        grind
      · rename_i different
        simp only [lookup_cons, ih]
        grind

@[simp] theorem lookup_insert_self (name : String) (value : α) (entries : List (String × α)) :
    (insert name value entries).lookup name = some value := by
  simp [lookup_insert]

theorem lookup_erase (name other : String) (entries : List (String × α)) :
    (erase name entries).lookup other = if other = name then none else entries.lookup other := by
  induction entries with
  | nil => simp [erase]
  | cons entry rest ih =>
    obtain ⟨first, kept⟩ := entry
    unfold erase at ih ⊢
    by_cases same : first = name
    · subst same
      simp only [bne_self_eq_false, Bool.false_eq_true, not_false_eq_true,
        List.filter_cons_of_neg, ih, lookup_cons]
      grind
    · simp only [bne_iff_ne, ne_eq, same, not_false_eq_true, List.filter_cons_of_pos, lookup_cons,
        ih]
      grind

/-! ### Members and order -/

theorem mem_insert {name : String} {value : α} {entries : List (String × α)}
    {entry : String × α} (h : entry ∈ insert name value entries) :
    entry = (name, value) ∨ entry ∈ entries := by
  induction entries with
  | nil => simpa [insert] using h
  | cons first rest ih =>
    obtain ⟨other, kept⟩ := first
    simp only [insert] at h
    split at h
    · simpa using h
    · split at h
      · simp only [List.mem_cons] at h ⊢
        grind
      · simp only [List.mem_cons] at h ⊢
        grind

@[simp] theorem ascending_nil : Ascending ([] : List (String × α)) := List.Pairwise.nil

theorem ascending_cons {entry : String × α} {rest : List (String × α)} :
    Ascending (entry :: rest) ↔ (∀ other ∈ rest, entry.1 < other.1) ∧ Ascending rest :=
  List.pairwise_cons

private theorem lt_of_not_lt_of_ne {left right : String} (h : ¬ left < right)
    (different : left ≠ right) : right < left := by
  by_cases less : right < left
  · exact less
  · exact absurd (String.le_antisymm (String.not_lt.1 less) (String.not_lt.1 h)) different

theorem ascending_insert (name : String) (value : α) {entries : List (String × α)}
    (h : Ascending entries) : Ascending (insert name value entries) := by
  induction entries with
  | nil => simp [insert, Ascending]
  | cons first rest ih =>
    obtain ⟨other, kept⟩ := first
    obtain ⟨head, tail⟩ := ascending_cons.1 h
    simp only [insert]
    split
    · rename_i less
      refine ascending_cons.2 ⟨fun entry member => ?_, h⟩
      rcases List.mem_cons.1 member with rfl | member
      · exact less
      · exact String.lt_trans less (head entry member)
    · split
      · rename_i same
        subst same
        exact ascending_cons.2 ⟨head, tail⟩
      · rename_i notLess different
        refine ascending_cons.2 ⟨fun entry member => ?_, ih tail⟩
        rcases mem_insert member with rfl | old
        · exact lt_of_not_lt_of_ne notLess different
        · exact head entry old

theorem ascending_foldl_insert (added : List (String × α)) {collected : List (String × α)}
    (h : Ascending collected) :
    Ascending
      (added.foldl (fun collected entry => insert entry.1 entry.2 collected) collected) := by
  induction added generalizing collected with
  | nil => exact h
  | cons entry rest ih => exact ih (ascending_insert _ _ h)

theorem ascending_ofList (entries : List (String × α)) : Ascending (ofList entries) :=
  ascending_foldl_insert entries ascending_nil

theorem ascending_erase (name : String) {entries : List (String × α)} (h : Ascending entries) :
    Ascending (erase name entries) :=
  List.Pairwise.filter _ h

/-! ### Equality -/

theorem lookup_eq_none_of_forall_lt {name : String} {entries : List (String × α)}
    (h : ∀ entry ∈ entries, name < entry.1) : entries.lookup name = none := by
  induction entries with
  | nil => rfl
  | cons entry rest ih =>
    have different : name ≠ entry.1 := fun same =>
      String.lt_irrefl _ (same ▸ h entry (by simp))
    obtain ⟨first, kept⟩ := entry
    rw [lookup_cons, if_neg different]
    exact ih fun other member => h other (by simp [member])

/-- An ascending list is determined by the value it gives to each name. -/
theorem ext {left right : List (String × α)} (hl : Ascending left) (hr : Ascending right)
    (same : ∀ name, left.lookup name = right.lookup name) : left = right := by
  induction left generalizing right with
  | nil =>
    cases right with
    | nil => rfl
    | cons entry rest =>
      have absent := same entry.1
      rw [List.lookup_nil, show entry = (entry.1, entry.2) from rfl, lookup_cons, if_pos rfl]
        at absent
      contradiction
  | cons entry rest ih =>
    cases right with
    | nil =>
      have absent := same entry.1
      rw [List.lookup_nil, show entry = (entry.1, entry.2) from rfl, lookup_cons, if_pos rfl]
        at absent
      contradiction
    | cons entry' rest' =>
      obtain ⟨name, value⟩ := entry
      obtain ⟨name', value'⟩ := entry'
      obtain ⟨head, tail⟩ := ascending_cons.1 hl
      obtain ⟨head', tail'⟩ := ascending_cons.1 hr
      have names : name = name' := by
        by_cases less : name < name'
        · have none' : ((name', value') :: rest').lookup name = none :=
            lookup_eq_none_of_forall_lt fun other member => by
              rcases List.mem_cons.1 member with rfl | member
              · exact less
              · exact String.lt_trans less (head' other member)
          simp [← same] at none'
        · by_cases equal : name = name'
          · exact equal
          · have greater := lt_of_not_lt_of_ne less equal
            have none' : ((name, value) :: rest).lookup name' = none :=
              lookup_eq_none_of_forall_lt fun other member => by
                rcases List.mem_cons.1 member with rfl | member
                · exact greater
                · exact String.lt_trans greater (head other member)
            simp [same] at none'
      subst names
      have values : value = value' := by simpa using same name
      subst values
      refine congrArg _ (ih tail tail' fun other => ?_)
      by_cases equal : other = name
      · subst equal
        rw [lookup_eq_none_of_forall_lt head, lookup_eq_none_of_forall_lt head']
      · simpa [lookup_cons, equal] using same other

end Keyed

end ChargePoint
