/-!
# Fingerprints

What a value gives to a hash: a sequence of items, the same for equal values.  Parts whose length
varies are preceded by it, and alternatives by their number, so that the items of one value are not
mistaken for those of another.

## Main definitions

* `Fingerprint.Item`: the items.
* `Fingerprint`: the types whose values have a fingerprint.
-/

namespace ChargePoint

/-- One item of a fingerprint: the number of an alternative, a length, an integer, or a string. -/
inductive Fingerprint.Item where
  | alternative (n : Nat)
  | length (n : Nat)
  | integer (n : Int)
  | text (s : String)
  deriving DecidableEq, Repr

/-- **A type whose values have a fingerprint.** -/
class Fingerprint (α : Type) where
  items : α → List Fingerprint.Item

namespace Fingerprint

instance : Fingerprint String := ⟨fun s => [.text s]⟩

instance : Fingerprint Int32 := ⟨fun n => [.integer n.toInt]⟩

instance {α : Type} [Fingerprint α] : Fingerprint (Option α) where
  items
    | none => [.alternative 0]
    | some value => .alternative 1 :: items value

end Fingerprint

end ChargePoint
