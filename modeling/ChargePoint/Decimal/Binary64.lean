import ChargePoint.Power

/-!
# Binary floating point of 64 bits

The finite numbers `± m · 2 ^ e` of the 64-bit binary format, with exact arithmetic underneath: a
sum of work is always "take the exact quotient of two naturals, then round once".  Infinities and
not-a-number have no place here; what would be infinite is `none`.

## Main definitions

* `Binary64`: sign, significand and exponent in the one form the format has for them.
* `Binary64.ofRatio?`: the number nearest to a quotient, ties to the even significand.
* `Binary64.mul?`, `Binary64.div?`: product and quotient, rounded once.
* `Binary64.scaled?`: a decimal significand carried to a power of ten by rounded steps.
-/

namespace ChargePoint

/-- **A finite 64-bit float**: `± significand · 2 ^ exponent`.  The significand fills its 53 bits
unless the exponent is already the least, so each number has one form (zero has two, by sign). -/
structure Binary64 where
  negative : Bool
  significand : Nat
  exponent : Int
  canonical : significand < 2 ^ (53 : Nat) ∧ -1074 ≤ exponent ∧ exponent ≤ 971 ∧
    (2 ^ (52 : Nat) ≤ significand ∨ exponent = -1074)
  deriving DecidableEq

namespace Binary64

/-- Zero, with either sign. -/
def zero (negative : Bool) : Binary64 := ⟨negative, 0, -1074, by decide⟩

/-- Both zeros and nothing else. -/
def isZero (x : Binary64) : Bool := x.significand == 0

/-- The parts, where they are in the form of the format. -/
def ofParts? (negative : Bool) (significand : Nat) (exponent : Int) : Option Binary64 :=
  if h : significand < 2 ^ (53 : Nat) ∧ -1074 ≤ exponent ∧ exponent ≤ 971 ∧
      (2 ^ (52 : Nat) ≤ significand ∨ exponent = -1074) then
    some ⟨negative, significand, exponent, h⟩
  else none

/-- The natural number nearest to `num / den`; of two equally near, the even one. -/
def roundDiv (num den : Nat) : Nat :=
  let quotient := num / den
  let rest := num % den
  if 2 * rest < den then quotient
  else if den < 2 * rest then quotient + 1
  else quotient + quotient % 2

/-- **Rounding**: the number nearest to `num / den`, ties to the even significand; `none` where
that number is past the largest. -/
def ofRatio? (negative : Bool) (num den : Nat) : Option Binary64 :=
  if num = 0 then some (zero negative)
  else
    let scaled (e : Int) : Nat × Nat := (num * 2 ^ (-e).toNat, den * 2 ^ e.toNat)
    -- the quotient lies between `2 ^ 52` and `2 ^ 54` units of this exponent
    let least : Int := max (-1074) (Int.ofNat num.log2 - Int.ofNat den.log2 - 53)
    let e := if (scaled least).1 / (scaled least).2 < 2 ^ (53 : Nat) then least else least + 1
    let m := roundDiv (scaled e).1 (scaled e).2
    if m = 2 ^ (53 : Nat) then ofParts? negative (2 ^ (52 : Nat)) (e + 1) else ofParts? negative m e

/-- The number nearest to a natural number. -/
def ofNat? (n : Nat) : Option Binary64 := ofRatio? false n 1

/-- The product of two numbers, rounded. -/
def mul? (x y : Binary64) : Option Binary64 :=
  let e := x.exponent + y.exponent
  ofRatio? (x.negative != y.negative) (x.significand * y.significand * 2 ^ e.toNat)
    (2 ^ (-e).toNat)

/-- The quotient of two numbers, rounded; `none` for a division by zero. -/
def div? (x y : Binary64) : Option Binary64 :=
  if y.isZero then none
  else
    let e := x.exponent - y.exponent
    ofRatio? (x.negative != y.negative) (x.significand * 2 ^ e.toNat)
      (y.significand * 2 ^ (-e).toNat)

/-- The same magnitude with a given sign. -/
def withSign (negative : Bool) (x : Binary64) : Binary64 := { x with negative }

/-- The number nearest to `10 ^ k`; `none` from `10 ^ 309` on. -/
def powerOfTen? (k : Nat) : Option Binary64 := if k ≤ 308 then ofNat? (10 ^ k) else none

/-- Divide by `10 ^ k`: in one rounded step up to `10 ^ 308`, and before that in steps of
`10 ^ 308`, which end once nothing is left. -/
def divPowerOfTen? (x : Binary64) (k : Nat) : Option Binary64 :=
  if k ≤ 308 then do x.div? (← powerOfTen? k)
  else if x.isZero then some x
  else do
    let y ← x.div? (← powerOfTen? 308)
    y.divPowerOfTen? (k - 308)
termination_by k
decreasing_by omega

/-- **Decimal scaling**: `± significand · 10 ^ exponent` in rounded steps, the significand first,
then one product or quotient with a rounded power of ten.  The result can differ from the nearest
number by a few units of the last place.  `none` where a step is past the largest number. -/
def scaled? (negative : Bool) (significand : Nat) (exponent : Int) : Option Binary64 := do
  let x ← ofNat? significand
  let y ←
    if exponent < 0 then x.divPowerOfTen? (-exponent).toNat
    else if x.isZero then some x
    else x.mul? (← powerOfTen? exponent.toNat)
  return y.withSign negative

/-- The 64 bits of the format: sign, exponent, and the significand without its leading bit. -/
def toBits (x : Binary64) : Nat :=
  let magnitude :=
    if x.significand < 2 ^ (52 : Nat) then x.significand
    else (x.exponent + 1075).toNat * 2 ^ (52 : Nat) + (x.significand - 2 ^ (52 : Nat))
  if x.negative then 2 ^ (63 : Nat) + magnitude else magnitude

end Binary64

end ChargePoint
