import ChargePoint.Constraint.Rejection
import ChargePoint.Power

/-!
# Acceptance

A value is accepted for a field, or rejected with a reason, by a predicate on the value alone.  The
predicates have no effect, so a whole can be judged again at any time without going through the
acceptance of its parts.

## Main definitions

* `Validated`: the types whose values are judged.
* `fits`: a string is within a limit.
* `accept`, and for the kinds of values `acceptText`, `acceptPart`, `acceptInteger`: acceptance.
* `demand`: a value that has to be there.
* `ifPresent`: acceptance of a value that may be absent.
-/

namespace ChargePoint

/-- **A type whose values are judged**: each is valid as a whole, or not. -/
class Validated (α : Type) where
  valid : α → Bool

/-- A string has at most `limit` characters. -/
def fits (limit : Nat) (s : String) : Bool := s.length ≤ limit

/-- **Accept a value** that satisfies a predicate, and say why not otherwise. -/
def accept {α : Type} [Diagnostic α] (field : String) (holds : α → Bool) (why : α → Reason)
    (value : α) : Except Rejection α :=
  if holds value then .ok value else .error (.ofValue field value (why value))

/-- A string within a limit. -/
def acceptText (field : String) (limit : Nat) (s : String) : Except Rejection String :=
  accept field (fits limit) (fun s => .tooLong limit s.length) s

/-- A part that is valid in itself, where there is one. -/
def acceptPart {α : Type} [Validated α] [Diagnostic α] (field : String) (part : Option α) :
    Except Rejection (Option α) :=
  accept field (·.all Validated.valid) (fun _ => .invalidPart) part

/-- An integer of 32 bits. -/
def acceptInteger (field : String) (n : Int) : Except Rejection Int32 :=
  if -(2 ^ (31 : Nat)) ≤ n ∧ n < 2 ^ (31 : Nat) then .ok (Int32.ofInt n)
  else .error (.ofValue field n (.outOfRange (-(2 ^ (31 : Nat))) (2 ^ (31 : Nat) - 1)))

/-- A value that has to be there. -/
def demand {α : Type} (field : String) (value : Option α) : Except Rejection α :=
  match value with
  | none => .error (.missing field)
  | some value => .ok value

/-- What is there is held to an acceptance; nothing is accepted always. -/
def ifPresent {α β : Type} (accept : α → Except Rejection β) :
    Option α → Except Rejection (Option β)
  | none => .ok none
  | some value => (accept value).map some

end ChargePoint
