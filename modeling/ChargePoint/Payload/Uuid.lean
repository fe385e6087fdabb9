/-!
# Random identifiers

An identifier of sixteen octets (a UUID) is written as 32 hexadecimal digits in groups of 8, 4, 4, 4
and 12.  In one that was drawn at random, the seventh octet begins with the version, 4, and the
ninth with the variant, the bits `10`.

## Main definitions

* `Uuid.stamp`: random octets with version and variant in place.
* `Uuid.text`: octets as they are written.
* `Uuid.ofRandom`: the identifier of random octets.
-/

namespace ChargePoint.Uuid

/-- Octets with the version and the variant of a random identifier in place. -/
def stamp (octets : List UInt8) : List UInt8 :=
  (octets.modify 6 fun octet => octet &&& 0x0f ||| 0x40).modify 8 fun octet =>
    octet &&& 0x3f ||| 0x80

/-- An octet as two digits. -/
def octetText (octet : UInt8) : String :=
  String.ofList [Nat.digitChar (octet.toNat / 16), Nat.digitChar (octet.toNat % 16)]

/-- The lengths of the groups, in octets. -/
def groups : List Nat := [4, 2, 2, 2, 6]

/-- Octets in groups of given lengths. -/
def grouped : List Nat → List UInt8 → List (List UInt8)
  | [], _ => []
  | n :: lengths, octets => octets.take n :: grouped lengths (octets.drop n)

/-- Octets as they are written. -/
def text (octets : List UInt8) : String :=
  "-".intercalate ((grouped groups octets).map fun group => String.join (group.map octetText))

/-- **The identifier of sixteen random octets.** -/
def ofRandom (octets : List UInt8) : String := text (stamp octets)

end ChargePoint.Uuid
