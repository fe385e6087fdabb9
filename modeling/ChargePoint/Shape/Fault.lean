import ChargePoint.Constraint.Rejection
import ChargePoint.Json.Doc
import ChargePoint.Time.Reader

/-!
# Faults of shape

A well-formed value can still have the wrong shape for what is to be read from it.  A fault says
what was found, in outline, and what would have been in place.

## Main definitions

* `Outline`: what was found, without the contents of arrays and objects.
* `Expected`: what would have been in place.
* `ShapeFault`, `ShapeFault.message`: the faults, and their wording.
* `ReadFault`: a fault of shape, or one of the notation met before it.
-/

namespace ChargePoint

/-- **What was found**: a scalar as it is, an array or an object only as such. -/
inductive Outline where
  | null
  | bool (b : Bool)
  | number (n : Number)
  | string (s : String)
  | sequence
  | map
  deriving DecidableEq

/-- The outline in a message. -/
def Outline.text : Outline → String
  | null => "null"
  | bool b => "boolean `" ++ (if b then "true" else "false") ++ "`"
  | number (.whole n) => "integer `" ++ toString n.value ++ "`"
  | number (.float x) => "floating point `" ++ x.text .wire ++ "`"
  | string s => "string " ++ Diagnostic.quote s
  | sequence => "sequence"
  | map => "map"

/-- The outline of a value. -/
def Json.outline : Json → Outline
  | null => .null
  | bool b => .bool b
  | number n => .number n
  | string s => .string s
  | array _ => .sequence
  | object _ => .map

/-- The outline of a document, where it can be read that far. -/
def Doc.outline : Doc → Except TextFault Outline
  | null => .ok .null
  | bool b => .ok (.bool b)
  | number n => .ok (.number n)
  | string s => .ok (.string s)
  | array _ => .ok .sequence
  | object _ => .ok .map
  | broken _ fault => .error fault

/-- **What would have been in place.** -/
inductive Expected where
  | string
  | integer
  | instant
  | structure (name : String)
  | elements (name : String) (count : Nat)
  | fewerElements
  | variant
  | unit
  | stringOrMap
  | singleKeyMap
  deriving DecidableEq

/-- The expectation in a message. -/
def Expected.text : Expected → String
  | string => "a string"
  | integer => "i64"
  | instant => "an RFC 3339 formatted date and time string"
  | .structure name => "struct " ++ name
  | elements name count =>
    "struct " ++ name ++ " with " ++ toString count ++
      if count = 1 then " element" else " elements"
  | fewerElements => "fewer elements in array"
  | variant => "variant identifier"
  | unit => "unit"
  | stringOrMap => "string or map"
  | singleKeyMap => "map with a single key"

/-- A choice of names in a message. -/
def oneOf (names : List String) : String :=
  match names.map fun name => "`" ++ name ++ "`" with
  | [] => "nothing"
  | [a] => a
  | [a, b] => a ++ " or " ++ b
  | names => "one of " ++ ", ".intercalate names

/-- **A fault of shape.**  The last two are found by looking into a string that is in place, and by
holding a structure that is in place to its constraints. -/
inductive ShapeFault where
  | invalidType (found : Outline) (expected : Expected)
  | invalidValue (found : Outline) (expected : Expected)
  | invalidLength (length : Nat) (expected : Expected)
  | unknownField (name : String) (known : List String)
  | duplicateField (name : String)
  | missingField (name : String)
  | unknownSpelling (name : String) (known : List String)
  | noAlternative
  | time (fault : TimeFault)
  | rejected (rejection : Rejection)
  deriving DecidableEq

/-- The wording of a fault of shape. -/
def ShapeFault.message : ShapeFault → String
  | invalidType found expected => "invalid type: " ++ found.text ++ ", expected " ++ expected.text
  | invalidValue found expected => "invalid value: " ++ found.text ++ ", expected " ++ expected.text
  | invalidLength length expected =>
    "invalid length " ++ toString length ++ ", expected " ++ expected.text
  | unknownField name known => "unknown field `" ++ name ++ "`, expected " ++ oneOf known
  | duplicateField name => "duplicate field `" ++ name ++ "`"
  | missingField name => "missing field `" ++ name ++ "`"
  | unknownSpelling name known => "unknown variant `" ++ name ++ "`, expected " ++ oneOf known
  | noAlternative => "no alternative fits the value"
  | time fault => fault.message
  | rejected rejection => rejection.message

/-- **A fault met while reading text**: one of the notation, or one of shape, whichever stands
first. -/
inductive ReadFault where
  | text (fault : TextFault)
  | shape (fault : ShapeFault)
  deriving DecidableEq

end ChargePoint
