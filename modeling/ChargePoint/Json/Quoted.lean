import ChargePoint.Json.Numeral

/-!
# Quoted strings

The content of a string up to its closing quote.  Control characters below the blank must be
escaped.  An escape of four digits of base sixteen names a unit of the sixteen-bit encoding; two of
them, one after the other, name a character past the first plane, and half of such a pair on its own
names nothing.

Where fewer than four digits can follow because the text ends, it has ended too early; the room left
is counted in bytes of the text.

## Main definitions

* `Quoted.unit`: the four digits of an escape.
* `Quoted.escaped`: the character of an escape.
* `Quoted.read`: the content of a string, and what follows its closing quote.
-/

namespace ChargePoint

namespace Quoted

/-- The value of a digit of base sixteen, in either case. -/
def hexValue? (c : Char) : Option Nat :=
  if '0' ≤ c ∧ c ≤ '9' then some (c.toNat - '0'.toNat)
  else if 'a' ≤ c ∧ c ≤ 'f' then some (c.toNat - 'a'.toNat + 10)
  else if 'A' ≤ c ∧ c ≤ 'F' then some (c.toNat - 'A'.toNat + 10)
  else none

/-- The bytes that a text takes. -/
def byteLength (text : List Char) : Nat := text.foldl (fun n c => n + c.utf8Size) 0

/-- The unit that four digits of base sixteen name. -/
def unit (text : List Char) : Except TextFault (Nat × Rest text) :=
  match text with
  | a :: b :: c :: d :: rest =>
    match hexValue? a, hexValue? b, hexValue? c, hexValue? d with
    | some a, some b, some c, some d =>
      .ok (((16 * a + b) * 16 + c) * 16 + d, ⟨rest, by simp; omega⟩)
    | _, _, _, _ => .error .malformed
  | short => .error (if byteLength short < 4 then .truncated else .malformed)

/-- The second half of a pair: an escape that names a unit from `DC00` to `DFFF`. -/
def lowerHalf (text : List Char) : Except TextFault (Nat × Rest text) :=
  match text with
  | [] => .error .truncated
  | '\\' :: [] => .error .truncated
  | '\\' :: 'u' :: rest => do
    let (low, after) ← unit rest
    if 0xDC00 ≤ low ∧ low ≤ 0xDFFF then .ok (low, after.ofShorter (by simp; omega))
    else .error .malformed
  | _ => .error .malformed

/-- The character that an escape of units names. -/
def unicode (text : List Char) : Except TextFault (Char × Rest text) := do
  let (high, after) ← unit text
  if 0xDC00 ≤ high ∧ high ≤ 0xDFFF then .error .malformed
  else if 0xD800 ≤ high ∧ high ≤ 0xDBFF then do
    let (low, final) ← lowerHalf after.1
    return (Char.ofNat ((high - 0xD800) * 0x400 + (low - 0xDC00) + 0x10000),
      ⟨final.1, Nat.lt_trans final.2 after.2⟩)
  else return (Char.ofNat high, after)

/-- **The character of an escape**, from what follows the backslash. -/
def escaped (text : List Char) : Except TextFault (Char × Rest text) :=
  match text with
  | [] => .error .truncated
  | 'u' :: rest => do
    let (c, after) ← unicode rest
    return (c, after.ofShorter (Nat.le_succ _))
  | mark :: rest =>
    let simple (c : Char) : Except TextFault (Char × Rest (mark :: rest)) :=
      .ok (c, ⟨rest, Nat.lt_succ_self _⟩)
    match mark with
    | '"' => simple '"'
    | '\\' => simple '\\'
    | '/' => simple '/'
    | 'b' => simple '\x08'
    | 'f' => simple '\x0c'
    | 'n' => simple '\n'
    | 'r' => simple '\x0d'
    | 't' => simple '\t'
    | _ => .error .malformed

/-- **The content of a string** up to its closing quote, after what has been read of it. -/
def read (content : String) (text : List Char) : Except TextFault (String × Rest text) :=
  match text with
  | [] => .error .truncated
  | '"' :: rest => .ok (content, ⟨rest, by simp⟩)
  | '\\' :: rest =>
    match escaped rest with
    | .error fault => .error fault
    | .ok (c, after) => do
      let (found, final) ← read (content.push c) after.1
      return (found, ⟨final.1, by have := final.2; have := after.2; simp; omega⟩)
  | c :: rest =>
    if c.toNat < 0x20 then .error .malformed
    else do
      let (found, final) ← read (content.push c) rest
      return (found, final.ofShorter (by simp))
termination_by text.length
decreasing_by
  · have := after.2; simp; omega
  · simp

end Quoted

end ChargePoint
