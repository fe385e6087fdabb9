import ChargePoint.Text.Diagnostic

/-!
# Rejections

Why a value is not accepted for a field.  A rejection names the field as it is written in payloads
and shows the value that was given.

## Main definitions

* `Reason`, `Reason.message`: the reasons, and their wording.
* `Rejection`, `Rejection.message`: a reason with the field and the value that it is about.
-/

namespace ChargePoint

/-- **Why a value is rejected**: it is required and absent, a string is longer than its field
allows, an integer lies outside its range, a spelling is not in the vocabulary, or a part of an
object is itself not valid. -/
inductive Reason where
  | missing
  | tooLong (max len : Nat)
  | outOfRange (min max : Int)
  | unknownSpelling
  | invalidPart
  deriving DecidableEq, Repr

/-- The wording of a reason. -/
def Reason.message : Reason → String
  | missing => "required value is missing"
  | tooLong max len => s!"length {len} exceeds maximum {max}"
  | outOfRange min max => s!"value outside range {min}..={max}"
  | unknownSpelling => "not a recognized enum value"
  | invalidPart => "nested object is invalid"

/-- **A rejected value**: the name of its field, the value as it is shown to someone looking for the
fault, and the reason. -/
structure Rejection where
  field : String
  value : String
  reason : Reason
  deriving DecidableEq, Repr

namespace Rejection

/-- A value that was given and is rejected. -/
def ofValue {α : Type} [Diagnostic α] (field : String) (value : α) (reason : Reason) : Rejection :=
  ⟨field, Diagnostic.text value, reason⟩

/-- A required field without a value. -/
def missing (field : String) : Rejection := ⟨field, "null", .missing⟩

/-- **What a rejected value is rejected with**: the name of the field, the value as it is shown, and
the reason. -/
theorem ofValue_eq {α : Type} [Diagnostic α] (field : String) (value : α) (reason : Reason) :
    ofValue field value reason = { field, value := Diagnostic.text value, reason } := rfl

/-- What a required field without a value is rejected with. -/
theorem missing_eq (field : String) :
    missing field = { field, value := "null", reason := .missing } := rfl

/-- A rejection is what it says: of which field, of which value, and why. -/
theorem eq_iff {r : Rejection} {field value : String} {reason : Reason} :
    r = { field, value, reason } ↔ r.field = field ∧ r.value = value ∧ r.reason = reason := by
  cases r
  simp

/-- The wording of a rejection. -/
def message (r : Rejection) : String :=
  r.field ++ " is invalid: " ++ r.reason.message ++ " (value: " ++ r.value ++ ")"

end Rejection

end ChargePoint
