import RebateRelay.Number.Binary64

/-!
# The shortest decimal that reads back

Every real number in an interval around a double rounds to that double. Among the decimals in the
interval the ones with the fewest digits are looked for, and of those the nearest to the double is
taken. All comparisons are between whole numbers.
-/

namespace RebateRelay.Number

/-- What to do when two decimals are equally near. -/
inductive Tie where
  /-- Take the larger one. -/
  | up
  /-- Take the one with the even last digit. -/
  | even
  deriving DecidableEq

/-- A decimal `digits * 10 ^ exponent`. -/
structure Digits where
  digits : Nat
  exponent : Int
  deriving DecidableEq, Repr

/-- How many decimal digits a number has; zero has one. -/
def digitCount (n : Nat) : Nat := (Nat.toDigits 10 n).length

namespace Binary64

/-- Four times the numerator of the lower end of the interval that rounds to `x`. The gap below a
power of two is half as wide as the one above. -/
def lowerFour (x : Binary64) : Nat :=
  let narrow := x.significand = twoTo 52 ∧ minExponent < x.exponent
  (4 * x.significand - if narrow then 1 else 2) * twoTo x.exponent.toNat

/-- Four times the numerator of the upper end of the interval. -/
def upperFour (x : Binary64) : Nat :=
  (4 * x.significand + 2) * twoTo x.exponent.toNat

/-- The decimal `d * 10 ^ k` rounds to `x`. An end of the interval belongs to it when the
significand is even. -/
def Holds (x : Binary64) (k : Int) (d : Nat) : Prop :=
  let scaled := d * tenTo k.toNat * (4 * x.denominator)
  let lower := x.lowerFour * tenTo (-k).toNat
  let upper := x.upperFour * tenTo (-k).toNat
  if x.significand % 2 = 0 then lower ≤ scaled ∧ scaled ≤ upper
  else lower < scaled ∧ scaled < upper

instance (x : Binary64) (k : Int) (d : Nat) : Decidable (x.Holds k d) := by
  unfold Holds
  infer_instance

/-- The largest multiple of `10 ^ k` not above `x`, counted in units of `10 ^ k`. -/
def gridFloor (x : Binary64) (k : Int) : Nat :=
  x.numerator * tenTo (-k).toNat / (x.denominator * tenTo k.toNat)

/-- The neighbour of `x` on the grid of `10 ^ k` that rounds to `x` and is nearest to it. -/
def nearestOnGrid? (tie : Tie) (x : Binary64) (k : Int) : Option Nat :=
  let low := x.gridFloor k
  let high := low + 1
  if x.Holds k low then
    if x.Holds k high then
      let unit := x.denominator * tenTo k.toNat
      let below := x.numerator * tenTo (-k).toNat - low * unit
      let above := high * unit - x.numerator * tenTo (-k).toNat
      if below < above then some low
      else if above < below then some high
      else match tie with
        | .up => some high
        | .even => some (if low % 2 = 0 then low else high)
    else some low
  else if x.Holds k high then some high
  else none

/-- The place of the decimal point: `x` is below `10 ^ pointPlace` and not below a tenth of it. The
smallest double is above `10 ^ (-350)`, so the shifted number shows all leading digits. -/
def pointPlace (x : Binary64) : Int :=
  (digitCount (x.numerator * tenTo 350 / x.denominator) : Int) - 350

/-- The shortest decimal of a positive double. The coarsest grid is the one of the point's place,
where only the next power of ten can be near; seventeen digits always suffice. -/
def shortest (tie : Tie) (x : Binary64) : Digits :=
  let place := x.pointPlace
  let onGrid (n : Nat) : Option Digits :=
    let k := place - n
    (x.nearestOnGrid? tie k).map fun d => ⟨d, k⟩
  ((List.range 18).findSome? onGrid).getD ⟨0, 0⟩

end Binary64

end RebateRelay.Number
