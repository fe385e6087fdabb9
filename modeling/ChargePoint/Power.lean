/-!
# Powers

Bounds are written as powers: of two for what a width of bits can hold, of ten for what a number of
digits can write.  Where a theory of algebra is in scope beside the library, the powers of a monoid
would be taken for them.  In this namespace they are the powers of natural numbers and integers that
are computed, so that a bound is one term wherever it is used and reasoned about.

An exponent that is a numeral is written with its type: else a default of the theory in scope would
settle what kind of power it is before the instance here is looked for.
-/

namespace ChargePoint

/-- Powers of numbers are those that are computed. -/
scoped instance (priority := 20000) computedPow {α : Type} [NatPow α] : Pow α Nat := instPowNat

end ChargePoint
