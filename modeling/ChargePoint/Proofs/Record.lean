import ChargePoint.Proofs.Outcome
import ChargePoint.Record

/-!
# Records slot by slot

What an operation does to a record as a whole, said of the content in each slot.

## Main results

* `Record.all_iff`, `Record.mapM_eq_ok_iff`: a check of all contents, and a change of all contents
  that may fail.
* `Record.failure?_mapM`: a change of all contents fails with its first error.
* `Record.forall_get_set`: what holds of every content still does once one has been replaced.
* `Record.beq_self`, `Record.beq_iff`: equality of records is that of their contents.
* `Record.exists_of_forall`: contents found for each slot make a record.
* `Slot.find?_label`: where no two indices share a name, a name finds the slot that bears it.
-/

namespace ChargePoint

variable {ι : Type}

namespace Slot

variable {is : List ι}

/-- A statement about the slots of a nonempty list: about the first, and about those after it. -/
theorem forall_cons_iff {i : ι} {p : (j : ι) → Slot (i :: is) j → Prop} :
    (∀ j slot, p j slot) ↔ p i .first ∧ ∀ j (slot : Slot is j), p j (.next slot) := by
  constructor
  · intro h
    exact ⟨h i .first, fun j slot => h j (.next slot)⟩
  · rintro ⟨head, tail⟩ j slot
    cases slot with
    | first => exact head
    | next slot => exact tail j slot

theorem mem {i : ι} (slot : Slot is i) : i ∈ is := by
  induction slot with
  | first => exact List.mem_cons_self
  | next slot ih => exact List.mem_cons_of_mem _ ih

theorem nonempty_of_mem {i : ι} (h : i ∈ is) : Nonempty (Slot is i) := by
  induction is with
  | nil => simp at h
  | cons j is ih =>
    rcases List.mem_cons.1 h with rfl | h
    · exact ⟨.first⟩
    · obtain ⟨slot⟩ := ih h
      exact ⟨.next slot⟩

theorem getElem?_position {i : ι} (slot : Slot is i) : is[slot.position]? = some i := by
  induction slot with
  | first => rfl
  | next slot ih => rw [position, List.getElem?_cons_succ, ih]

theorem position_ne {i j : ι} (slot : Slot is i) (other : Slot is j) (h : i ≠ j) :
    slot.position ≠ other.position := by
  intro same
  have found := slot.getElem?_position
  rw [same, other.getElem?_position] at found
  exact h (Option.some.inj found).symm

theorem holds_of_find? {p : ι → Bool} {found : (i : ι) × Slot is i} (h : find? p is = some found) :
    p found.1 = true := by
  induction is with
  | nil => simp [find?] at h
  | cons i is ih =>
    rw [find?] at h
    split at h
    · cases h
      assumption
    · obtain ⟨later, hl, rfl⟩ := Option.map_eq_some_iff.1 h
      exact ih hl

/-- **A name finds its slot** where no two indices share a name. -/
theorem find?_label {label : ι → String} (distinct : (is.map label).Nodup) {i : ι}
    (slot : Slot is i) : find? (fun j => label j == label i) is = some ⟨i, slot⟩ := by
  induction slot with
  | first => rw [find?, if_pos (beq_self_eq_true _)]
  | @next i j is slot ih =>
    obtain ⟨absent, distinct⟩ := List.nodup_cons.1 distinct
    have different : (label i == label j) = false := by
      rw [beq_eq_false_iff_ne]
      intro same
      exact absent (same ▸ List.mem_map_of_mem slot.mem)
    rw [find?, if_neg (by simp [different]), ih distinct]
    rfl

theorem idxOf_label {label : ι → String} (distinct : (is.map label).Nodup) {i : ι}
    (slot : Slot is i) : (is.map label).idxOf (label i) = slot.position := by
  have bound : slot.position < (is.map label).length := by
    rw [List.length_map]
    exact (List.getElem?_eq_some_iff.1 slot.getElem?_position).1
  have here : (is.map label)[slot.position] = label i := by
    rw [List.getElem_map, (List.getElem?_eq_some_iff.1 slot.getElem?_position).2]
  rw [← here, distinct.idxOf_getElem]

theorem eq_of_label {label : ι → String} (distinct : (is.map label).Nodup) {i j : ι}
    (slot : Slot is i) (other : Slot is j) (h : label i = label j) :
    (⟨i, slot⟩ : (i : ι) × Slot is i) = ⟨j, other⟩ := by
  have found := find?_label distinct slot
  rw [h, find?_label distinct other] at found
  exact (Option.some.inj found).symm

/-- Two slots of one index bear one name, and the name finds only one of them. -/
theorem unique {label : ι → String} (distinct : (is.map label).Nodup) {i : ι}
    (slot other : Slot is i) : slot = other := by
  cases eq_of_label distinct slot other rfl
  rfl

end Slot

namespace Record

variable {is : List ι} {α β : ι → Type}

theorem all_iff (p : (i : ι) → α i → Bool) (r : Record α is) :
    r.all p = true ↔ ∀ i (slot : Slot is i), p i (r.get slot) = true := by
  induction r with
  | nil => exact ⟨fun _ _ slot => (nomatch slot), fun _ => rfl⟩
  | cons head tail ih =>
    rw [Slot.forall_cons_iff, Record.all, Bool.and_eq_true, ih]
    rfl

/-- **Each content satisfies a predicate**, one after another. -/
def Each (p : (i : ι) → α i → Prop) : {is : List ι} → Record α is → Prop
  | _, nil => True
  | _, cons (i := i) head tail => p i head ∧ tail.Each p

theorem each_iff {p : (i : ι) → α i → Prop} {r : Record α is} :
    r.Each p ↔ ∀ i (slot : Slot is i), p i (r.get slot) := by
  induction r with
  | nil => exact ⟨fun _ _ slot => (nomatch slot), fun _ => trivial⟩
  | cons head tail ih =>
    rw [Slot.forall_cons_iff, Each, ih]
    rfl

/-- **A change of all contents succeeds** where the change of each does. -/
theorem mapM_eq_ok_iff {ε : Type} (f : (i : ι) → α i → Except ε (β i)) (r : Record α is)
    (s : Record β is) :
    r.mapM f = .ok s ↔ ∀ i (slot : Slot is i), f i (r.get slot) = .ok (s.get slot) := by
  induction r with
  | nil =>
    cases s
    exact ⟨fun _ _ slot => (nomatch slot), fun _ => rfl⟩
  | cons head tail ih =>
    cases s with
    | cons head' tail' =>
      rw [Slot.forall_cons_iff]
      simp only [Record.mapM, bind_eq_ok_iff, pure_eq_ok_iff, cons.injEq, ih]
      constructor
      · rintro ⟨x, hx, xs, hxs, rfl, rfl⟩
        exact ⟨hx, hxs⟩
      · rintro ⟨hx, hxs⟩
        exact ⟨_, hx, _, hxs, rfl, rfl⟩

/-- The errors of a change of all contents that may fail, in order. -/
def errors {ε : Type} (f : (i : ι) → α i → Except ε (β i)) :
    {is : List ι} → Record α is → List ε
  | _, nil => []
  | _, cons (i := i) head tail => (failure? (f i head)).toList ++ tail.errors f

/-- **A change of all contents fails** with the first of its errors. -/
theorem failure?_mapM {ε : Type} (f : (i : ι) → α i → Except ε (β i)) (r : Record α is) :
    failure? (r.mapM f) = (r.errors f).head? := by
  induction r with
  | nil => rfl
  | @cons i is head tail ih =>
    rw [Record.mapM, errors]
    cases f i head with
    | error e => rfl
    | ok content =>
      rw [ok_bind, failure?_bind_pure, ih]
      rfl

/-- The error of a change of all contents is that of one of them. -/
theorem exists_of_mapM_eq_error {ε : Type} {f : (i : ι) → α i → Except ε (β i)} {r : Record α is}
    {e : ε} (h : r.mapM f = .error e) : ∃ i, ∃ slot : Slot is i, f i (r.get slot) = .error e := by
  induction r with
  | nil => cases h
  | @cons i is head tail ih =>
    rcases bind_eq_error_iff.1 h with here | ⟨_, -, later⟩
    · exact ⟨i, .first, here⟩
    · rcases ih (bind_pure_eq_error_iff.1 later) with ⟨j, slot, there⟩
      exact ⟨j, .next slot, there⟩

/-- Where one content cannot be changed, a change of all contents fails. -/
theorem exists_mapM_eq_error {ε : Type} {f : (i : ι) → α i → Except ε (β i)} {r : Record α is}
    {i : ι} {slot : Slot is i} {e : ε} (h : f i (r.get slot) = .error e) :
    ∃ first, r.mapM f = .error first := by
  cases made : r.mapM f with
  | error first => exact ⟨first, rfl⟩
  | ok s =>
    have here := (mapM_eq_ok_iff f r s).1 made i slot
    rw [h] at here
    cases here

theorem errors_eq_flatMap {ε : Type} {f : (i : ι) → α i → Except ε (β i)} {r : Record α is}
    {errorsOf : ι → List ε}
    (h : ∀ i (slot : Slot is i), (failure? (f i (r.get slot))).toList = errorsOf i) :
    r.errors f = is.flatMap errorsOf := by
  induction r with
  | nil => rfl
  | cons head tail ih =>
    rw [Slot.forall_cons_iff] at h
    rw [errors, List.flatMap_cons, ← ih h.2, ← h.1]
    rfl

/-- The slot that is set and the one that is asked about may each be here or later. -/
theorem forall_get_set {p : (i : ι) → α i → Prop} {r : Record α is}
    (h : ∀ i (slot : Slot is i), p i (r.get slot)) {i : ι} (slot : Slot is i) {content : α i}
    (hc : p i content) {j : ι} (other : Slot is j) : p j ((r.set slot content).get other) := by
  induction r with
  | nil => exact nomatch slot
  | cons head tail ih =>
    rw [Slot.forall_cons_iff] at h
    cases slot with
    | first =>
      cases other with
      | first => exact hc
      | next other => exact h.2 _ other
    | next slot =>
      cases other with
      | first => exact h.1
      | next other => exact ih h.2 slot other

theorem exists_of_forall {p : (i : ι) → Slot is i → α i → Prop}
    (h : ∀ i (slot : Slot is i), ∃ content, p i slot content) :
    ∃ r : Record α is, ∀ i (slot : Slot is i), p i slot (r.get slot) := by
  induction is with
  | nil => exact ⟨.nil, nofun⟩
  | cons i is ih =>
    rw [Slot.forall_cons_iff] at h
    obtain ⟨head, hh⟩ := h.1
    obtain ⟨tail, ht⟩ := ih h.2
    exact ⟨.cons head tail, Slot.forall_cons_iff.2 ⟨hh, ht⟩⟩

theorem beq_self {eq : (i : ι) → α i → α i → Bool} (each : ∀ i content, eq i content content = true)
    (r : Record α is) : r.beq eq r = true := by
  induction r with
  | nil => rfl
  | cons head tail ih => rw [Record.beq, each, ih, Bool.and_self]

/-- Records are equal slot by slot. -/
theorem beq_iff {eq : (i : ι) → α i → α i → Bool} {r s : Record α is} :
    r.beq eq s = true ↔ ∀ i (slot : Slot is i), eq i (r.get slot) (s.get slot) = true := by
  induction r with
  | nil =>
    cases s
    exact ⟨fun _ _ slot => (nomatch slot), fun _ => rfl⟩
  | cons head tail ih =>
    cases s with
    | cons head' tail' =>
      rw [Slot.forall_cons_iff, Record.beq, Bool.and_eq_true, ih]
      rfl

theorem toList_map {γ : Type} (g : (i : ι) → α i → β i) (f : (i : ι) → β i → γ)
    (r : Record α is) : (r.map g).toList f = r.toList fun i content => f i (g i content) := by
  induction r with
  | nil => rfl
  | cons head tail ih => rw [Record.map, toList, toList, ih]

end Record

end ChargePoint
