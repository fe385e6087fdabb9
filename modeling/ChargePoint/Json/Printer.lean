import ChargePoint.Json.Basic

/-!
# Written JSON

Two layouts of a tree: compact, without a blank, and indented, with two blanks per level.  Members
are written in the order in which the tree has them.

## Main definitions

* `Json.quote`: a string between quotes, with the escapes that the notation requires and no others.
* `Json.compact`, `Json.pretty`: the two layouts.
-/

namespace ChargePoint

namespace Json

/-- The lower-case digits of a number in base sixteen. -/
def hex (n : Nat) : List Char := Nat.toDigits 16 n

/-- How a character stands in a string: quote, backslash and the control characters below the blank
are escaped, with the short form where there is one. -/
def escape (c : Char) : List Char :=
  if c = '"' then ['\\', '"']
  else if c = '\\' then ['\\', '\\']
  else if c = '\x08' then ['\\', 'b']
  else if c = '\x09' then ['\\', 't']
  else if c = '\x0a' then ['\\', 'n']
  else if c = '\x0c' then ['\\', 'f']
  else if c = '\x0d' then ['\\', 'r']
  else if c.toNat < 0x10 then ['\\', 'u', '0', '0', '0'] ++ hex c.toNat
  else if c.toNat < 0x20 then ['\\', 'u', '0', '0'] ++ hex c.toNat
  else [c]

/-- A string of the notation, between quotes. -/
def quote (s : String) : String :=
  s.foldl (fun text c => (escape c).foldl String.push text) "\"" ++ "\""

mutual

/-- **The compact layout**: no blank anywhere. -/
def compact : Json → String
  | null => "null"
  | bool b => if b then "true" else "false"
  | number n => n.text
  | string s => quote s
  | array items => "[" ++ ",".intercalate (compactItems items) ++ "]"
  | object members => "\x7b" ++ ",".intercalate (compactMembers members) ++ "\x7d"

/-- The items of an array, each in the compact layout. -/
def compactItems : List Json → List String
  | [] => []
  | item :: rest => compact item :: compactItems rest

/-- The members of an object, each in the compact layout. -/
def compactMembers : List (String × Json) → List String
  | [] => []
  | (name, value) :: rest => (quote name ++ ":" ++ compact value) :: compactMembers rest

end

/-- The start of a line at a level of indentation. -/
def newline (level : Nat) : String := "\n".pushn ' ' (2 * level)

/-- Entries one to a line between brackets; nothing at all between them where there is none. -/
def block (level : Nat) (opening closing : String) (entries : List String) : String :=
  if entries.isEmpty then opening ++ closing
  else
    opening ++ newline (level + 1) ++ ("," ++ newline (level + 1)).intercalate entries ++
      newline level ++ closing

mutual

/-- The indented layout of a tree whose first line starts at a level. -/
def prettyAt (level : Nat) : Json → String
  | null => "null"
  | bool b => if b then "true" else "false"
  | number n => n.text
  | string s => quote s
  | array items => block level "[" "]" (prettyItems (level + 1) items)
  | object members => block level "\x7b" "\x7d" (prettyMembers (level + 1) members)

/-- The items of an array, each in the indented layout. -/
def prettyItems (level : Nat) : List Json → List String
  | [] => []
  | item :: rest => prettyAt level item :: prettyItems level rest

/-- The members of an object, each in the indented layout. -/
def prettyMembers (level : Nat) : List (String × Json) → List String
  | [] => []
  | (name, value) :: rest =>
    (quote name ++ ": " ++ prettyAt level value) :: prettyMembers level rest

end

/-- **The indented layout**: one entry to a line, two blanks per level. -/
def pretty (v : Json) : String := prettyAt 0 v

end Json

end ChargePoint
