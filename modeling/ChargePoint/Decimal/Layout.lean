import ChargePoint.Decimal.Shortest

/-!
# Layouts of decimals

A decimal is written either with its point in place (`120.0`, `0.0012`) or with one leading digit
and a power of ten (`1.2e+300`).  Which of the two belongs to a layout.

## Main definitions

* `Decimal.positional`, `Decimal.scientific`: the two forms.
* `Layout`: the decisions; `Layout.wire`, those of payloads.
* `Binary64.text`: a float in a layout.
-/

namespace ChargePoint

namespace Decimal

/-- The point in its place, with at least one digit on either side of it. -/
def positional (d : Decimal) : String :=
  let text := d.digitText
  if 0 ≤ d.exponent then text ++ "".pushn '0' d.exponent.toNat ++ ".0"
  else
    let places := (-d.exponent).toNat
    if places < text.length then
      (text.take (text.length - places)).toString ++ "." ++
        (text.drop (text.length - places)).toString
    else "0.".pushn '0' (places - text.length) ++ text

/-- One leading digit and a power of ten, whose sign is always written. -/
def scientific (d : Decimal) : String :=
  let text := d.digitText
  let mantissa :=
    if text.length ≤ 1 then text
    else (text.take 1).toString ++ "." ++ (text.drop 1).toString
  let e := d.leadingExponent
  mantissa ++ (if e < 0 then "e-" else "e+") ++ toString e.natAbs

end Decimal

/-- **A layout of floats**: the leading exponents from which, and below which, the point stands in
its place. -/
structure Layout where
  least : Int
  bound : Int

/-- The layout of payloads: in place from `0.00001` up to sixteen digits before the point. -/
def Layout.wire : Layout := ⟨-5, 16⟩

/-- A float written in a layout. -/
def Binary64.text (layout : Layout) (x : Binary64) : String :=
  let d := x.shortest
  let e := d.leadingExponent
  let magnitude := if layout.least ≤ e ∧ e < layout.bound then d.positional else d.scientific
  if x.negative then "-" ++ magnitude else magnitude

end ChargePoint
