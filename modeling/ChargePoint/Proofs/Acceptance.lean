import ChargePoint.Constraint.Acceptance
import ChargePoint.Proofs.Outcome

/-!
# What is accepted

An acceptance lets through exactly the values that satisfy its predicate, and changes nothing about
them; the only exception is the acceptance of integers, which also gives them their width.  The
others it rejects, with the name of the field, the value and what is wrong with it.

## Main results

* `accept_eq_ok_iff`, `acceptText_eq_ok_iff`, `acceptPart_eq_ok_iff`: the values that pass.
* `acceptInteger_eq_ok_iff`: an integer passes as the integer of 32 bits that it is.
* `ifPresent_eq_ok_iff`: acceptance of a value that may be absent.
* `accept_eq_error_iff`, `acceptText_eq_error_iff`, `acceptPart_eq_error_iff`,
  `acceptInteger_eq_error_iff`, `demand_eq_error_iff`: what is rejected, and with which field, value
  and reason.
-/

namespace ChargePoint

variable {α : Type} {label : String}

theorem fits_iff {limit : Nat} {s : String} : fits limit s = true ↔ s.length ≤ limit := by
  rw [fits, decide_eq_true_iff]

/-- **What is accepted** satisfies the predicate, and is what was given. -/
theorem accept_eq_ok_iff [Diagnostic α] {holds : α → Bool} {why : α → Reason} {x y : α} :
    accept label holds why x = .ok y ↔ x = y ∧ holds y = true := by
  unfold accept
  constructor
  · intro h
    split at h
    · cases h
      exact ⟨rfl, by assumption⟩
    · cases h
  · rintro ⟨rfl, h⟩
    rw [if_pos h]

theorem acceptText_eq_ok_iff {limit : Nat} {s t : String} :
    acceptText label limit s = .ok t ↔ s = t ∧ fits limit t = true := accept_eq_ok_iff

theorem acceptPart_eq_ok_iff [Validated α] [Diagnostic α] {x y : Option α} :
    acceptPart label x = .ok y ↔ x = y ∧ y.all Validated.valid = true := accept_eq_ok_iff

/-- An integer is accepted as one of 32 bits of the same value: the bounds of the check are those of
32 bits, so narrowing loses nothing. -/
theorem acceptInteger_eq_ok_iff {n : Int} {x : Int32} :
    acceptInteger label n = .ok x ↔ n = x.toInt := by
  unfold acceptInteger
  constructor
  · intro h
    split at h
    · rename_i bounds
      cases h
      rw [Int32.toInt_ofInt_of_le bounds.1 bounds.2]
    · cases h
  · rintro rfl
    rw [if_pos ⟨x.le_toInt, x.toInt_lt⟩, Int32.ofInt_toInt]

/-- What is demanded is there, and is given back as it is. -/
theorem demand_eq_ok_iff {x : Option α} {y : α} : demand label x = .ok y ↔ x = some y := by
  cases x <;> simp [demand]

/-- A value that may be absent passes where it is absent, and else where it passes by itself. -/
theorem ifPresent_eq_ok_iff {check : α → Except Rejection α} {holds : α → Bool}
    (passes : ∀ x y, check x = .ok y ↔ x = y ∧ holds y = true) {x y : Option α} :
    ifPresent check x = .ok y ↔ x = y ∧ y.all holds = true := by
  cases x with
  | none =>
    rw [ifPresent, Except.ok.injEq]
    constructor
    · rintro rfl
      exact ⟨rfl, rfl⟩
    · rintro ⟨rfl, -⟩
      rfl
  | some x =>
    simp only [ifPresent, map_eq_ok_iff, passes]
    constructor
    · rintro ⟨_, ⟨rfl, hx⟩, rfl⟩
      exact ⟨rfl, hx⟩
    · rintro ⟨rfl, hx⟩
      exact ⟨x, ⟨rfl, hx⟩, rfl⟩

/-! ### Rejection -/

variable {r : Rejection}

/-- **What is rejected** breaks the predicate, and the rejection names the field, shows the value
and gives the reason. -/
theorem accept_eq_error_iff [Diagnostic α] {holds : α → Bool} {why : α → Reason} {x : α} :
    accept label holds why x = .error r ↔
      holds x = false ∧ r = { field := label, value := Diagnostic.text x, reason := why x } := by
  rw [accept, Rejection.ofValue_eq]
  cases holds x with
  | false => simpa using eq_comm
  | true => simp

/-- A string is rejected for its length, by the count of its characters. -/
theorem acceptText_eq_error_iff {limit : Nat} {s : String} :
    acceptText label limit s = .error r ↔
      limit < s.length ∧
        r = { field := label, value := Diagnostic.text s, reason := .tooLong limit s.length } := by
  rw [acceptText, accept_eq_error_iff, Bool.eq_false_iff, ne_eq, fits_iff, Nat.not_le]

/-- A part is rejected if it is there and not valid. -/
theorem acceptPart_eq_error_iff [Validated α] [Diagnostic α] {x : Option α} :
    acceptPart label x = .error r ↔
      ∃ part, x = some part ∧ Validated.valid part = false ∧
        r = { field := label, value := Diagnostic.text (some part), reason := .invalidPart } := by
  rw [acceptPart, accept_eq_error_iff]
  cases x <;> simp

/-- An integer is rejected if 32 bits do not hold it. -/
theorem acceptInteger_eq_error_iff {n : Int} :
    acceptInteger label n = .error r ↔
      (n < -(2 ^ (31 : Nat)) ∨ 2 ^ (31 : Nat) - 1 < n) ∧
        r = { field := label, value := Diagnostic.text n,
              reason := .outOfRange (-(2 ^ (31 : Nat))) (2 ^ (31 : Nat) - 1) } := by
  rw [acceptInteger, Rejection.ofValue_eq]
  split
  · have within : ¬(n < -(2 ^ (31 : Nat)) ∨ 2 ^ (31 : Nat) - 1 < n) := by omega
    exact iff_of_false nofun fun h => within h.1
  · have outside : n < -(2 ^ (31 : Nat)) ∨ 2 ^ (31 : Nat) - 1 < n := by omega
    rw [and_iff_right outside, Except.error.injEq, eq_comm]

/-- A value that has to be there is rejected if it is not. -/
theorem demand_eq_error_iff {x : Option α} :
    demand label x = .error r ↔
      x = none ∧ r = { field := label, value := "null", reason := .missing } := by
  cases x with
  | none => simpa [demand, Rejection.missing_eq] using eq_comm
  | some x => simp [demand]

/-- What is absent is never rejected where it may be. -/
theorem ifPresent_eq_error_iff {β : Type} {check : α → Except Rejection β} {x : Option α} :
    ifPresent check x = .error r ↔ ∃ value, x = some value ∧ check value = .error r := by
  cases x <;> simp [ifPresent, map_eq_error_iff]

end ChargePoint
