import ChargePoint.Data.Scalar
import ChargePoint.Proofs.Outcome

/-!
# What scalars are read from

A string is read from a string, an integer from an integer of 64 bits with a sign and never from a
float, an instant from a string that writes one.  A reading that takes `null` for an absent value
finds nothing in a `null`, and elsewhere what the reading finds.

## Main results

* `toText_eq_ok_iff`, `toInteger_eq_ok_iff`, `toInstant_eq_ok_iff`: the three readings.
* `rel_orNull_iff`: readings that take `null` for an absent value.
-/

namespace ChargePoint

/-- A text is read from a string, and from nothing else. -/
theorem toText_eq_ok_iff {v : Json} {s : String} : v.outline.toText = .ok s ↔ v = .string s := by
  cases v <;> simp [Json.outline, Outline.toText]

/-- An integer is read from a number that is written as one, up to what 64 bits with a sign can
hold. -/
theorem toInteger_eq_ok_iff {v : Json} {n : Int} :
    v.outline.toInteger = .ok n ↔
      ∃ w : Whole, v = .number (.whole w) ∧ w.value = n ∧ n < 2 ^ (63 : Nat) := by
  cases v with
  | number x =>
    cases x with
    | whole w =>
      simp only [Json.outline, Outline.toInteger, Json.number.injEq, Number.whole.injEq,
        exists_eq_left']
      split
      · grind
      · grind
    | float x => simp [Json.outline, Outline.toInteger]
  | null => simp [Json.outline, Outline.toInteger]
  | bool b => simp [Json.outline, Outline.toInteger]
  | string s => simp [Json.outline, Outline.toInteger]
  | array items => simp [Json.outline, Outline.toInteger]
  | object members => simp [Json.outline, Outline.toInteger]

theorem toInstant_eq_ok_iff {v : Json} {t : Instant} :
    v.outline.toInstant = .ok t ↔ ∃ text, v = .string text ∧ Instant.read text = .ok t := by
  cases v <;> simp [Json.outline, Outline.toInstant]

/-! ### Nothing in a `null` -/

theorem orNull_eq_ok_iff {α : Type} {read : Json → Except ShapeFault α} {w : Json}
    {y : Option α} :
    Json.orNull read w = .ok y ↔
      if w.isNull then y = none else ∃ x, read w = .ok x ∧ y = some x := by
  rw [Json.orNull]
  split
  · rw [Except.ok.injEq, eq_comm]
  · rw [map_eq_ok_iff]
    exact exists_congr fun x => and_congr_right fun _ => eq_comm

/-- What is found beside a `null` is what the reading finds. -/
theorem read_of_orNull {α : Type} {read : Json → Except ShapeFault α} {w : Json} {y : Option α}
    (h : Json.orNull read w = .ok y) {x : α} (there : x ∈ y) : read w = .ok x := by
  unfold Json.orNull at h
  split at h
  · cases h
    cases there
  · obtain ⟨z, hz, rfl⟩ := map_eq_ok_iff.1 h
    cases there
    exact hz

@[inherit_doc read_of_orNull]
theorem read_of_orNull_doc {α : Type} {read : Doc → Except ReadFault α} {doc : Doc} {y : Option α}
    (h : Doc.orNull read doc = .ok y) {x : α} (there : x ∈ y) : read doc = .ok x := by
  unfold Doc.orNull at h
  split at h
  · cases h
    cases there
  · cases h
  · obtain ⟨z, hz, rfl⟩ := map_eq_ok_iff.1 h
    cases there
    exact hz

/-- Readings that take `null` for an absent value, of something that may be absent itself. -/
theorem rel_orNull_iff {α : Type} {read : Json → Except ShapeFault α} {found : Option Json}
    {x : Option α} :
    (∃ y : Option (Option α),
        Option.Rel (fun w y => Json.orNull read w = .ok y) found y ∧ y.join = x) ↔
      Option.Rel (fun w x => read w = .ok x) (found.filter fun w => !w.isNull) x := by
  cases found with
  | none =>
    constructor
    · rintro ⟨y, h, rfl⟩
      cases h
      exact .none
    · intro h
      cases h
      exact ⟨none, .none, rfl⟩
  | some w =>
    rw [Option.filter_some]
    cases isNull : w.isNull with
    | true =>
      constructor
      · rintro ⟨_, h, rfl⟩
        cases h with
        | some h =>
          rw [orNull_eq_ok_iff, isNull, if_pos rfl] at h
          subst h
          exact .none
      · intro h
        cases h
        exact ⟨some none, .some (by rw [orNull_eq_ok_iff, isNull, if_pos rfl]), rfl⟩
    | false =>
      constructor
      · rintro ⟨_, h, rfl⟩
        cases h with
        | some h =>
          rw [orNull_eq_ok_iff, isNull, if_neg Bool.false_ne_true] at h
          obtain ⟨x, hr, rfl⟩ := h
          exact .some hr
      · intro h
        cases h with
        | some hr =>
          refine ⟨some (some _), .some ?_, rfl⟩
          rw [orNull_eq_ok_iff, isNull, if_neg Bool.false_ne_true]
          exact ⟨_, hr, rfl⟩

end ChargePoint
