import ChargePoint.Decimal.Binary64

/-!
# Shortest decimals

The decimal written for a float is the one with the fewest digits among those that read back as
it, and of those the nearest; of two equally near, the one with an even last digit.  A number reads
back when it lies in the interval of reals that round to the float; the interval includes its ends
when the significand is even.

On the grid of multiples of a power of ten only the two neighbours of the float need a look: if any
point of the grid lies in the interval, one of the neighbours does.  Grids are tried from the
coarsest to the finest, and seventeen digits always suffice.

## Main definitions

* `Decimal`: a natural number of units of a power of ten.
* `Binary64.shortest`: the decimal written for the magnitude of a float.
-/

namespace ChargePoint

/-- **A decimal**: `digits · 10 ^ exponent`. -/
structure Decimal where
  digits : Nat
  exponent : Int
  deriving DecidableEq, Repr

namespace Decimal

/-- The digits written out. -/
def digitText (d : Decimal) : String := toString d.digits

/-- The exponent of the leading digit. -/
def leadingExponent (d : Decimal) : Int := d.exponent + d.digitText.length - 1

/-- Leave out the zeros at the end of the digits, at most `fuel` of them. -/
def trim (fuel : Nat) (d : Decimal) : Decimal :=
  match fuel with
  | 0 => d
  | fuel + 1 =>
    if d.digits ≠ 0 ∧ d.digits % 10 = 0 then trim fuel ⟨d.digits / 10, d.exponent + 1⟩ else d

end Decimal

namespace Binary64

/-- **The reals that round to a float**, in units of `2 ^ (exponent - 2)`: the float itself, the
lower end, the upper end, and whether the ends belong. -/
structure Neighbourhood where
  centre : Nat
  lower : Nat
  upper : Nat
  closed : Bool

/-- The lower half is narrower where the next float below has a smaller exponent. -/
def neighbourhood (x : Binary64) : Neighbourhood where
  centre := 4 * x.significand
  lower :=
    if x.significand = 2 ^ (52 : Nat) ∧ -1074 < x.exponent then 4 * x.significand - 1
    else 4 * x.significand - 2
  upper := 4 * x.significand + 2
  closed := x.significand % 2 == 0

/-- The neighbour of a float to write on the grid of multiples of `10 ^ k`, if one reads back. -/
def onGrid? (x : Binary64) (k : Int) : Option Decimal :=
  let near := x.neighbourhood
  let e := x.exponent - 2
  -- one unit of the neighbourhood is `unit`, one step of the grid is `step`
  let unit := 2 ^ e.toNat * 10 ^ (-k).toNat
  let step := 10 ^ k.toNat * 2 ^ (-e).toNat
  let below := near.centre * unit / step
  let above := below + 1
  let readsBack (n : Nat) : Bool :=
    if near.closed then near.lower * unit ≤ n * step && n * step ≤ near.upper * unit
    else near.lower * unit < n * step && n * step < near.upper * unit
  let twice := 2 * near.centre * unit
  let middle := (below + above) * step
  let preferBelow : Bool := if twice = middle then below % 2 == 0 else twice < middle
  match readsBack below, readsBack above with
  | true, true => some ⟨if preferBelow then below else above, k⟩
  | true, false => some ⟨below, k⟩
  | false, true => some ⟨above, k⟩
  | false, false => none

/-- The exponent of the leading decimal digit of a magnitude that is not zero. -/
def leadingExponent (x : Binary64) : Int :=
  let large := x.significand * 2 ^ x.exponent.toNat * 10 ^ (400 : Nat) / 2 ^ (-x.exponent).toNat
  Int.ofNat (toString large).length - 401

/-- **The shortest decimal** that reads back as the magnitude of a float, and of those the nearest;
zero is the digit `0`. -/
def shortest (x : Binary64) : Decimal :=
  if x.isZero then ⟨0, 0⟩
  else
    let top := x.leadingExponent
    let found := (List.range 17).findSome? fun (n : Nat) => x.onGrid? (top - n)
    (found.getD ⟨0, 0⟩).trim 17

end Binary64

end ChargePoint
