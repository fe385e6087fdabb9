import ChargePoint.Text.Hidden

/-!
# Diagnostic text

How a value is shown to whoever looks for the reason of a rejection: every type by its structure,
strings between quotes with hidden characters spelled out, so that what is shown can be told apart
from what is not.

## Main definitions

* `Diagnostic`: the types whose values can be shown.
* `Diagnostic.quote`: a string between quotes.
* `Diagnostic.list`, `Diagnostic.map`, `Diagnostic.record`, `Diagnostic.wrap`: the structures.
-/

namespace ChargePoint

/-- **A type whose values can be shown** to someone looking for a fault. -/
class Diagnostic (α : Type) where
  text : α → String

namespace Diagnostic

/-- How a character stands between quotes: the usual short escapes, and hidden characters by their
number. -/
def escape (c : Char) : String :=
  if c = '"' then "\\\""
  else if c = '\\' then "\\\\"
  else if c = '\n' then "\\n"
  else if c = '\x0d' then "\\r"
  else if c = '\t' then "\\t"
  else if c = '\x00' then "\\0"
  else if isHidden c then "\\u\x7b" ++ String.ofList (Nat.toDigits 16 c.toNat) ++ "\x7d"
  else String.singleton c

/-- **A string between quotes.** -/
def quote (s : String) : String := s.foldl (fun text c => text ++ escape c) "\"" ++ "\""

/-- Entries between square brackets. -/
def list (entries : List String) : String := "[" ++ ", ".intercalate entries ++ "]"

/-- Named entries between braces, each name between quotes. -/
def map (entries : List (String × String)) : String :=
  "\x7b" ++ ", ".intercalate (entries.map fun entry => quote entry.1 ++ ": " ++ entry.2) ++ "\x7d"

/-- The fields of a structure after its name. -/
def record (name : String) (fields : List (String × String)) : String :=
  name ++ " \x7b " ++ ", ".intercalate (fields.map fun field => field.1 ++ ": " ++ field.2) ++
    " \x7d"

/-- A content marked with the name of its alternative. -/
def wrap (name content : String) : String := name ++ "(" ++ content ++ ")"

instance : Diagnostic String := ⟨quote⟩

instance : Diagnostic Int := ⟨toString⟩

instance : Diagnostic Int32 := ⟨fun n => toString n.toInt⟩

instance {α : Type} [Diagnostic α] : Diagnostic (Option α) where
  text
    | none => "None"
    | some value => wrap "Some" (text value)

instance {α : Type} [Diagnostic α] : Diagnostic (List α) := ⟨fun values => list (values.map text)⟩

end Diagnostic

end ChargePoint
