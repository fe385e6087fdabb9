import ChargePoint.Fingerprint
import ChargePoint.Json.Printer
import ChargePoint.Shape.Fault

/-!
# Vendor values

The values of fields whose content the protocol leaves to the vendor: anything JSON can write.  The
members of an object are kept by name, so two values are equal however their members were given.

A vendor value and a JSON value say the same thing, and there are several ways from one to the
other: converting all of a tree, reading it by trying one alternative after another, and writing it
member by member.

## Main definitions

* `VendorValue`, with `BEq VendorValue`: the values, and their equality.
* `VendorValue.ofJson`, `VendorValue.toJson`: conversion.
* `VendorValue.read?`: reading, alternative by alternative.
* `VendorValue.write`: writing.
* `VendorValue.text`: the compact text of a value.
* `VendorValue.Ordered`: the names of every object strictly ascend.
-/

namespace ChargePoint

/-- **A value whose content is the vendor's business.** -/
inductive VendorValue where
  | null
  | bool (b : Bool)
  | number (n : Number)
  | string (s : String)
  | array (items : List VendorValue)
  | object (members : List (String × VendorValue))

namespace VendorValue

/-! ### What a value is -/

/-- Whether a value is `null`. -/
def isNull : VendorValue → Bool
  | null => true
  | _ => false

/-- The string, of a string. -/
def asString? : VendorValue → Option String
  | string s => some s
  | _ => none

/-- The integer, of an integer of 64 bits with a sign. -/
def asInt64? : VendorValue → Option Int
  | number n => n.toInt64?
  | _ => none

/-- The value a name has, in an object. -/
def get? (name : String) : VendorValue → Option VendorValue
  | object members => members.lookup name
  | _ => none

mutual

/-- The names of every object of a value strictly ascend. -/
def Ordered : VendorValue → Prop
  | array items => OrderedItems items
  | object members => Keyed.Ascending members ∧ OrderedMembers members
  | _ => True

/-- The names are in order in every item. -/
def OrderedItems : List VendorValue → Prop
  | [] => True
  | item :: rest => Ordered item ∧ OrderedItems rest

/-- The names are in order in the value of every member. -/
def OrderedMembers : List (String × VendorValue) → Prop
  | [] => True
  | (_, value) :: rest => Ordered value ∧ OrderedMembers rest

end

/-! ### Equality -/

mutual

/-- Equality: the same tree, but for the sign of float zeros. -/
protected def beq : VendorValue → VendorValue → Bool
  | null, null => true
  | bool a, bool b => a == b
  | number a, number b => a == b
  | string a, string b => a == b
  | array xs, array ys => VendorValue.beqItems xs ys
  | object xs, object ys => VendorValue.beqMembers xs ys
  | _, _ => false

/-- Equality of the items of two arrays, one by one. -/
protected def beqItems : List VendorValue → List VendorValue → Bool
  | [], [] => true
  | x :: xs, y :: ys => VendorValue.beq x y && VendorValue.beqItems xs ys
  | _, _ => false

/-- Equality of the members of two objects, one by one. -/
protected def beqMembers : List (String × VendorValue) → List (String × VendorValue) → Bool
  | [], [] => true
  | (name, x) :: xs, (other, y) :: ys =>
    name == other && VendorValue.beq x y && VendorValue.beqMembers xs ys
  | _, _ => false

end

instance : BEq VendorValue := ⟨VendorValue.beq⟩

/-! ### Conversion -/

mutual

/-- **The vendor value of a JSON value**, its members collected by name. -/
def ofJson : Json → VendorValue
  | .null => null
  | .bool b => bool b
  | .number n => number n
  | .string s => string s
  | .array items => array (ofItems items)
  | .object members => object (Keyed.ofList (ofMembers members))

/-- The vendor values of the items of an array. -/
def ofItems : List Json → List VendorValue
  | [] => []
  | item :: rest => ofJson item :: ofItems rest

/-- The members of an object with their vendor values. -/
def ofMembers : List (String × Json) → List (String × VendorValue)
  | [] => []
  | (name, value) :: rest => (name, ofJson value) :: ofMembers rest

end

mutual

/-- **The JSON value of a vendor value**, its members collected by name. -/
def toJson : VendorValue → Json
  | null => .null
  | bool b => .bool b
  | number n => .number n
  | string s => .string s
  | array items => .array (toItems items)
  | object members => .object (Keyed.ofList (toMembers members))

/-- The JSON values of the items of an array. -/
def toItems : List VendorValue → List Json
  | [] => []
  | item :: rest => toJson item :: toItems rest

/-- The members of an object with their JSON values. -/
def toMembers : List (String × VendorValue) → List (String × Json)
  | [] => []
  | (name, value) :: rest => (name, toJson value) :: toMembers rest

end

/-! ### Reading -/

/-- The null, of a null. -/
def null? : Json → Option VendorValue
  | .null => some null
  | _ => none

/-- The truth value, of a truth value. -/
def bool? : Json → Option VendorValue
  | .bool b => some (bool b)
  | _ => none

/-- The number, of a number. -/
def number? : Json → Option VendorValue
  | .number n => some (number n)
  | _ => none

/-- The string, of a string. -/
def string? : Json → Option VendorValue
  | .string s => some (string s)
  | _ => none

mutual

/-- **Reading**: the first alternative that fits, of null, truth value, number, string, array and
object in this order. -/
def read? (v : Json) : Option VendorValue :=
  null? v <|> bool? v <|> number? v <|> string? v <|>
    match v with
    | .array items => (readItems? items).map array
    | .object members => (readMembers? members []).map object
    | _ => none

/-- Reading of the items of an array. -/
def readItems? : List Json → Option (List VendorValue)
  | [] => some []
  | item :: rest => do return (← read? item) :: (← readItems? rest)

/-- Reading of the members of an object, into those read before. -/
def readMembers? : List (String × Json) → List (String × VendorValue) →
    Option (List (String × VendorValue))
  | [], members => some members
  | (name, value) :: rest, members => do
    readMembers? rest (Keyed.insert name (← read? value) members)

end

/-- The vendor value read from a tree. -/
def read (v : Json) : Except ShapeFault VendorValue :=
  match read? v with
  | some value => .ok value
  | none => .error .noAlternative

/-! ### Writing -/

mutual

/-- **Writing**: the tree of a value, member by member. -/
def write : VendorValue → Json
  | null => .null
  | bool b => .bool b
  | number n => .number n
  | string s => .string s
  | array items => .array (writeItems items)
  | object members => .object (writeMembers members)

/-- The trees of the items of an array. -/
def writeItems : List VendorValue → List Json
  | [] => []
  | item :: rest => write item :: writeItems rest

/-- The members of an object with their trees. -/
def writeMembers : List (String × VendorValue) → List (String × Json)
  | [] => []
  | (name, value) :: rest => (name, write value) :: writeMembers rest

end

/-- The compact text of a value. -/
def text (value : VendorValue) : String := value.toJson.compact

/-! ### Diagnostic text -/

mutual

/-- A value as it is shown to someone looking for a fault: each part marked with what it is. -/
def diagnostic : VendorValue → String
  | null => "Null"
  | bool b => Diagnostic.wrap "Bool" (if b then "true" else "false")
  | number n => Diagnostic.wrap "Number" (Diagnostic.wrap "Number" n.text)
  | string s => Diagnostic.wrap "String" (Diagnostic.quote s)
  | array items => Diagnostic.wrap "Array" (Diagnostic.list (diagnosticItems items))
  | object members => Diagnostic.wrap "Object" (Diagnostic.map (diagnosticMembers members))

/-- The items of an array as they are shown. -/
def diagnosticItems : List VendorValue → List String
  | [] => []
  | item :: rest => diagnostic item :: diagnosticItems rest

/-- The members of an object as they are shown. -/
def diagnosticMembers : List (String × VendorValue) → List (String × String)
  | [] => []
  | (name, value) :: rest => (name, diagnostic value) :: diagnosticMembers rest

end

instance : Diagnostic VendorValue := ⟨diagnostic⟩

/-! ### Fingerprints -/

/-- What a number gives: integers by value, marked by sign, and floats by their bits, with both
zeros as one. -/
def fingerprintNumber : Number → List Fingerprint.Item
  | .whole n => [.alternative (if 0 ≤ n.value then 0 else 1), .integer n.value]
  | .float x => [.alternative 2, .integer (if x.isZero then 0 else x.toBits)]

mutual

/-- What a value gives to a hash. -/
def fingerprint : VendorValue → List Fingerprint.Item
  | null => [.alternative 0]
  | bool b => [.alternative 1, .integer (if b then 1 else 0)]
  | number n => .alternative 2 :: fingerprintNumber n
  | string s => [.alternative 3, .text s]
  | array items => .alternative 4 :: .length items.length :: fingerprintItems items
  | object members => .alternative 5 :: .length members.length :: fingerprintMembers members

/-- What the items of an array give. -/
def fingerprintItems : List VendorValue → List Fingerprint.Item
  | [] => []
  | item :: rest => fingerprint item ++ fingerprintItems rest

/-- What the members of an object give. -/
def fingerprintMembers : List (String × VendorValue) → List Fingerprint.Item
  | [] => []
  | (name, value) :: rest => .text name :: (fingerprint value ++ fingerprintMembers rest)

end

instance : Fingerprint VendorValue := ⟨fingerprint⟩

end VendorValue

end ChargePoint
