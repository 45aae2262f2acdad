import RebateRelay.Number.Power

/-!
# Doubles taken apart

A finite double is a sign, an integer of at most 53 bits and a power of two. The exact formats and
the decimal conversion work on these parts, where all arithmetic is on whole numbers.
-/

namespace RebateRelay.Number

/-- The parts of a finite double, whose magnitude is `significand * 2 ^ exponent`. -/
structure Binary64 where
  negative : Bool
  significand : Nat
  exponent : Int
  deriving DecidableEq, Repr

namespace Binary64

/-- The least exponent of a double, which subnormal numbers share. -/
def minExponent : Int := -1074

/-- The parts of a double; NaN and the infinities have none. A normal number keeps its leading bit
as bit 52 of the significand. -/
def ofFloat? (x : Float) : Option Binary64 :=
  let bits := x.toBits.toNat
  let negative := decide (twoTo 63 ≤ bits)
  let field : Nat := bits / twoTo 52 % twoTo 11
  let fraction : Nat := bits % twoTo 52
  if field = 2047 then none
  else if field = 0 then some ⟨negative, fraction, minExponent⟩
  else some ⟨negative, twoTo 52 + fraction, (field : Int) - 1075⟩

/-- The magnitude as a quotient of whole numbers: its numerator. -/
def numerator (x : Binary64) : Nat := x.significand * twoTo x.exponent.toNat

/-- The magnitude as a quotient of whole numbers: its denominator, a power of two. -/
def denominator (x : Binary64) : Nat := twoTo (-x.exponent).toNat

theorem denominator_pos (x : Binary64) : 0 < x.denominator := twoTo_pos _

end Binary64

/-- The sign bit of a double, also of a zero or a NaN. -/
def signBit (x : Float) : Bool := decide (twoTo 63 ≤ x.toBits.toNat)

end RebateRelay.Number
