import ChargePoint.Json.Doc
import ChargePoint.Text.Digits

/-!
# Numerals

A numeral is a sign, the digits before the point, and perhaps digits after it and an exponent.  It
is read in two steps: the text is cut into these parts, and the parts are given a number.

The digits of a numeral count as long as they make a natural number of 64 bits.  Of the digits
before the point, those past that limit only make the number longer; of the digits after it, they
are dropped.  A numeral with neither point nor exponent is an integer if 64 bits hold it, with a
sign if it has one; every other numeral is a float, and so is `-0`.

## Main definitions

* `Rest`: what is left of a text from which something has been read.
* `Numeral`: the parts.
* `Numeral.read`: the numeral at the start of a text.
* `Numeral.toNumber?`: the number, unless it is past the largest float.
-/

namespace ChargePoint

/-- What is left of a text from which at least one character has been read. -/
abbrev Rest (text : List Char) : Type := { rest : List Char // rest.length < text.length }

/-- The rest of a rest. -/
def Rest.ofShorter {text tail : List Char} (h : tail.length ≤ text.length) (rest : Rest tail) :
    Rest text :=
  ⟨rest.1, Nat.lt_of_lt_of_le rest.2 h⟩

/-- **A numeral**: the sign, the digits before the point and after it, and the exponent with its
own sign. -/
structure Numeral where
  negative : Bool
  whole : List Char
  fraction : Option (List Char)
  exponent : Option (Bool × List Char)

namespace Numeral

theorem length_dropWhile_le (p : Char → Bool) (text : List Char) :
    (text.dropWhile p).length ≤ text.length := by
  induction text with
  | nil => simp
  | cons c rest ih =>
    simp only [List.dropWhile]
    split
    · exact Nat.le_succ_of_le ih
    · exact Nat.le_refl _

/-! ### Cutting the text -/

/-- At least one digit, and what follows the digits. -/
def digits (text : List Char) : Except TextFault (List Char × Rest text) :=
  match text with
  | [] => .error .truncated
  | c :: rest =>
    if c.isDigit then
      .ok (c :: rest.takeWhile Char.isDigit,
        ⟨rest.dropWhile Char.isDigit, Nat.lt_succ_of_le (length_dropWhile_le _ _)⟩)
    else .error .malformed

/-- The digits before the point: a zero stands alone. -/
def wholeDigits (text : List Char) : Except TextFault (List Char × Rest text) := do
  let (found, rest) ← digits text
  if found.head? = some '0' ∧ 1 < found.length then .error .malformed else .ok (found, rest)

/-- The digits after the point, where there is a point. -/
def fractionDigits (text : List Char) :
    Except TextFault (Option (List Char) × { rest : List Char // rest.length ≤ text.length }) :=
  match text with
  | '.' :: rest => do
    let (found, after) ← digits rest
    return (some found, ⟨after.1, by have := after.2; simp; omega⟩)
  | other => .ok (none, ⟨other, Nat.le_refl _⟩)

/-- The exponent, where there is one: its letter, perhaps a sign, and digits. -/
def exponentDigits (text : List Char) :
    Except TextFault
      (Option (Bool × List Char) × { rest : List Char // rest.length ≤ text.length }) :=
  match text with
  | mark :: rest =>
    if mark = 'e' ∨ mark = 'E' then
      match rest with
      | '-' :: tail => do
        let (found, after) ← digits tail
        return (some (true, found), ⟨after.1, by have := after.2; simp; omega⟩)
      | '+' :: tail => do
        let (found, after) ← digits tail
        return (some (false, found), ⟨after.1, by have := after.2; simp; omega⟩)
      | tail => do
        let (found, after) ← digits tail
        return (some (false, found), ⟨after.1, by have := after.2; simp; omega⟩)
    else .ok (none, ⟨mark :: rest, Nat.le_refl _⟩)
  | [] => .ok (none, ⟨[], Nat.le_refl _⟩)

/-- The numeral after the sign. -/
def readUnsigned (negative : Bool) (text : List Char) :
    Except TextFault (Numeral × Rest text) := do
  let (whole, afterWhole) ← wholeDigits text
  let (fraction, afterFraction) ← fractionDigits afterWhole.1
  let (exponent, afterExponent) ← exponentDigits afterFraction.1
  return (⟨negative, whole, fraction, exponent⟩,
    ⟨afterExponent.1, by
      have := afterExponent.2; have := afterFraction.2; have := afterWhole.2; omega⟩)

/-- **The numeral at the start of a text**, and what follows it. -/
def read (text : List Char) : Except TextFault (Numeral × Rest text) :=
  match text with
  | '-' :: rest => do
    let (numeral, after) ← readUnsigned true rest
    return (numeral, after.ofShorter (by simp))
  | other => readUnsigned false other

/-! ### The number -/

/-- Continue a number with digits as long as it stays below `2 ^ 64`; the digits that no longer
count are returned. -/
def absorb (n : Nat) : List Char → Nat × List Char
  | [] => (n, [])
  | c :: rest =>
    let longer := 10 * n + digitValue c
    if longer < 2 ^ (64 : Nat) then absorb longer rest else (n, c :: rest)

/-- The float of a numeral: digits that count, carried to the power of ten that the place of the
point and the exponent give. -/
def toFloat? (numeral : Numeral) : Option Binary64 :=
  let (whole, longer) := absorb 0 numeral.whole
  let fraction := numeral.fraction.getD []
  let (significand, dropped) := absorb whole fraction
  let place : Int := Int.ofNat longer.length - Int.ofNat (fraction.length - dropped.length)
  let exponent : Int :=
    match numeral.exponent with
    | none => 0
    | some (true, found) => -Int.ofNat (digitsValue 0 found)
    | some (false, found) => Int.ofNat (digitsValue 0 found)
  Binary64.scaled? numeral.negative significand (place + exponent)

/-- The integer of a numeral that has neither point nor exponent, where 64 bits hold it; `-0` is
none. -/
def toWhole? (numeral : Numeral) : Option Whole :=
  match numeral.fraction, numeral.exponent with
  | none, none =>
    let magnitude := Int.ofNat (digitsValue 0 numeral.whole)
    if numeral.negative then
      if magnitude = 0 then none else Whole.ofInt? (-magnitude)
    else Whole.ofInt? magnitude
  | _, _ => none

/-- **The number of a numeral**; `none` past the largest float. -/
def toNumber? (numeral : Numeral) : Option Number :=
  match numeral.toWhole? with
  | some n => some (.whole n)
  | none => numeral.toFloat?.map .float

end Numeral

end ChargePoint
