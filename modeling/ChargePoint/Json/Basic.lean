import ChargePoint.Decimal.Layout
import ChargePoint.Keyed

/-!
# JSON values

A JSON tree as it is written: the members of an object are a list of pairs, in the order of the
text and with any repetition it has.  The *values* of the notation are the trees whose objects are
keyed lists at every level; `Json.canonical` collects a tree into one.

Numbers are of three kinds that never mix: integers below zero and integers from zero on, which fit
64 bits, and floats.  `1` and `1.0` are different values; the two zeros of the floats are one.

## Main definitions

* `Whole`, `Number`, `Json`: integers, numbers, trees.
* `Json.Canonical`: names strictly ascend in every object, at every level.
* `Json.canonical`: the value that a written tree stands for; of repeated names the last counts.
* the instances `BEq Number` and `BEq Json`: equality of values.
-/

namespace ChargePoint

/-- **The integers of the notation**: those that 64 bits hold, with or without a sign. -/
structure Whole where
  value : Int
  fits : -(2 ^ (63 : Nat)) ≤ value ∧ value < 2 ^ (64 : Nat)
  deriving DecidableEq

/-- **The numbers of the notation**: an integer stays an integer, all else is a float. -/
inductive Number where
  | whole (n : Whole)
  | float (x : Binary64)
  deriving DecidableEq

/-- **A JSON tree**, as written. -/
inductive Json where
  | null
  | bool (b : Bool)
  | number (n : Number)
  | string (s : String)
  | array (items : List Json)
  | object (members : List (String × Json))

/-! ### Numbers -/

/-- The integer of a value, where it is one of the notation. -/
def Whole.ofInt? (value : Int) : Option Whole :=
  if h : -(2 ^ (63 : Nat)) ≤ value ∧ value < 2 ^ (64 : Nat) then some ⟨value, h⟩ else none

/-- A signed integer of 32 bits. -/
def Whole.ofInt32 (n : Int32) : Whole :=
  ⟨n.toInt, by have := n.le_toInt; have := n.toInt_lt; omega⟩

/-- A signed integer of 64 bits. -/
def Whole.ofInt64 (n : Int64) : Whole :=
  ⟨n.toInt, by have := n.le_toInt; have := n.toInt_lt; omega⟩

namespace Number

/-- Equality of numbers: integers by value, floats by their bits but for the sign of zero. -/
protected def beq : Number → Number → Bool
  | whole a, whole b => a == b
  | float x, float y => x == y || (x.isZero && y.isZero)
  | _, _ => false

instance : BEq Number := ⟨Number.beq⟩

/-- A number as it is written in a payload. -/
def text : Number → String
  | whole n => toString n.value
  | float x => x.text .wire

/-- The integer, where it is one of 64 bits with a sign. -/
def toInt64? : Number → Option Int
  | whole n => if n.value < 2 ^ (63 : Nat) then some n.value else none
  | float _ => none

end Number

namespace Json

/-! ### Equality -/

mutual

/-- Equality of values: the same tree, but for the sign of float zeros. -/
protected def beq : Json → Json → Bool
  | null, null => true
  | bool a, bool b => a == b
  | number a, number b => a == b
  | string a, string b => a == b
  | array xs, array ys => Json.beqItems xs ys
  | object xs, object ys => Json.beqMembers xs ys
  | _, _ => false

/-- Equality of the items of two arrays, one by one. -/
protected def beqItems : List Json → List Json → Bool
  | [], [] => true
  | x :: xs, y :: ys => Json.beq x y && Json.beqItems xs ys
  | _, _ => false

/-- Equality of the members of two objects, one by one. -/
protected def beqMembers : List (String × Json) → List (String × Json) → Bool
  | [], [] => true
  | (name, x) :: xs, (other, y) :: ys => name == other && Json.beq x y && Json.beqMembers xs ys
  | _, _ => false

end

instance : BEq Json := ⟨Json.beq⟩

/-! ### Canonical trees -/

mutual

/-- Names strictly ascend in every object of the tree. -/
def Canonical : Json → Prop
  | array items => CanonicalItems items
  | object members => Keyed.Ascending members ∧ CanonicalMembers members
  | _ => True

/-- Every item of an array is canonical. -/
def CanonicalItems : List Json → Prop
  | [] => True
  | item :: rest => Canonical item ∧ CanonicalItems rest

/-- Every value of an object is canonical. -/
def CanonicalMembers : List (String × Json) → Prop
  | [] => True
  | (_, value) :: rest => Canonical value ∧ CanonicalMembers rest

end

mutual

/-- **The value of a written tree**: members in ascending order of their names at every level, the
last of those with one name. -/
def canonical : Json → Json
  | array items => array (canonicalItems items)
  | object members => object (Keyed.ofList (canonicalMembers members))
  | v => v

/-- The values of the items of an array. -/
def canonicalItems : List Json → List Json
  | [] => []
  | item :: rest => canonical item :: canonicalItems rest

/-- The members of an object with their values, still in the order of the text. -/
def canonicalMembers : List (String × Json) → List (String × Json)
  | [] => []
  | (name, value) :: rest => (name, canonical value) :: canonicalMembers rest

end

/-- Whether a value is `null`. -/
def isNull : Json → Bool
  | null => true
  | _ => false

/-- The value a name has in an object; nothing else has members. -/
def get? (name : String) : Json → Option Json
  | object members => members.lookup name
  | _ => none

end Json

end ChargePoint
