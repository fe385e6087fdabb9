/-!
# Representations

A message to people shows an object as its type's name, its fields in order, and whether it is
valid: `StatusInfo{reasonCode=Busy, additionalInfo=null, isValid=true}`.  A representation grows
field by field; absent values show as `null`, and no text is escaped.

## Main definitions

* `Representation`: what has been written, and whether it has a field.
* `Representation.start`, `add`, `addOptional`: the name, and field after field.
* `Representation.text`, `judged`: what is shown in the end, without and with a judgement.
-/

namespace ChargePoint

/-- **A representation under way**: what has been written, and whether it has a field yet. -/
structure Representation where
  written : String
  hasFields : Bool
  deriving DecidableEq, Repr

namespace Representation

/-- The name of a type, and the brace after it. -/
def start (name : String) : Representation := ⟨name ++ "\x7b", false⟩

/-- A field and its value, set off from a field before it. -/
def add (r : Representation) (name value : String) : Representation :=
  ⟨r.written ++ (if r.hasFields then ", " else "") ++ name ++ "=" ++ value, true⟩

/-- A field that may be absent. -/
def addOptional (r : Representation) (name : String) (value : Option String) : Representation :=
  r.add name (value.getD "null")

/-- What has been written, and the closing brace. -/
def text (r : Representation) : String := r.written ++ "\x7d"

/-- What has been written, whether the object is valid, and the closing brace. -/
def judged (r : Representation) (valid : Bool) : String :=
  (r.add "isValid" (if valid then "true" else "false")).text

end Representation

end ChargePoint
