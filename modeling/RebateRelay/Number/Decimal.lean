import RebateRelay.Number.FloatText

/-!
# Decimals of 96 bits

A decimal is a sign, a mantissa below `2 ^ 96` and a scale of at most 28, and stands for the
mantissa divided by ten to the scale. Products and quotients that do not fit are rounded to the
neighbour with the even last digit, at the largest scale that leaves the mantissa in range; when no
scale does, the operation has no result. A double becomes the decimal that its leading digits
spell.
-/

namespace RebateRelay.Number

/-- A mantissa with a sign and a number of decimal places. -/
structure Decimal where
  negative : Bool
  mantissa : Nat
  scale : Nat
  deriving DecidableEq, Repr

/-- A quotient of whole numbers rounded to the nearest, a half to the even neighbour. -/
def roundHalfEven (n d : Nat) : Nat :=
  let q := n / d
  let twice := 2 * (n % d)
  if twice < d then q
  else if d < twice then q + 1
  else if q % 2 = 0 then q else q + 1

namespace Decimal

/-- Mantissas stay below this bound. -/
def mantissaBound : Nat := twoTo 96

/-- The largest number of decimal places. -/
def maxScale : Nat := 28

/-- The mantissa and the scale are in range. -/
def Valid (x : Decimal) : Prop := x.mantissa < mantissaBound ∧ x.scale ≤ maxScale

instance (x : Decimal) : Decidable x.Valid := by
  unfold Valid
  infer_instance

/-- Zero without decimal places. -/
def zero : Decimal := ⟨false, 0, 0⟩

/-- A whole number. -/
def ofNat (n : Nat) : Decimal := ⟨false, n, 0⟩

/-- The decimal is zero, with whichever sign. -/
def isZero (x : Decimal) : Bool := x.mantissa == 0

/-! ## From a double

The double is `b * 5 ^ e5 * 10 ^ e10`. The powers of five are moved into `b` first, then the powers
of ten; what does not fit is dropped from the end of `b`.
-/

/-- An integer and a power of ten. -/
structure Scaled where
  b : Nat
  e10 : Int
  deriving DecidableEq, Repr

namespace Scaled

/-- Moves so many factors of five into the integer. A factor of two is traded for one of ten where
there is one; when five times the integer would be too large, half of it is taken. -/
def gainFives : Nat → Scaled → Scaled
  | 0, x => x
  | n + 1, ⟨b, e⟩ =>
    if b % 2 = 0 then gainFives n ⟨b / 2, e + 1⟩
    else if 5 * b < mantissaBound then gainFives n ⟨5 * b, e⟩
    else gainFives n ⟨b / 2, e + 1⟩

/-- Takes so many factors of five out of the integer, by doubling and lowering the power of ten
while there is room and by division afterwards. -/
def loseFives : Nat → Scaled → Option Scaled
  | 0, x => some x
  | n + 1, ⟨b, e⟩ =>
    if b < twoTo 95 then loseFives n ⟨2 * b, e - 1⟩
    else if (n : Int) + 1 < 2 * e then none
    else loseFives n ⟨b / 5, e⟩

/-- Moves so many factors of ten into the integer. -/
def gainTens : Nat → Nat → Option Nat
  | 0, b => some b
  | n + 1, b => if 10 * b < mantissaBound then gainTens n (10 * b) else none

/-- Drops the last digit, rounding up from five. -/
def dropDigit (b : Nat) : Nat := if 5 ≤ b % 10 then b / 10 + 1 else b / 10

/-- Drops the places beyond the largest scale. An integer that has run out is zero. -/
def dropExcess : Nat → Scaled → Scaled
  | 0, x => x
  | n + 1, ⟨b, e⟩ =>
    if b / 10 = 0 then ⟨0, 0⟩ else dropExcess n ⟨dropDigit b, e + 1⟩

/-- Drops places while the integer has more bits than a double carries. -/
def dropNoise : Nat → Scaled → Scaled
  | 0, x => x
  | n + 1, ⟨b, e⟩ => if twoTo 52 ≤ b then dropNoise n ⟨dropDigit b, e + 1⟩ else ⟨b, e⟩

/-- Drops zeros behind the point. -/
def dropZeros : Nat → Scaled → Scaled
  | 0, x => x
  | n + 1, ⟨b, e⟩ => if b % 10 = 0 then dropZeros n ⟨b / 10, e + 1⟩ else ⟨b, e⟩

/-- How many places stand behind the point. -/
def places (x : Scaled) : Nat := (-x.e10).toNat

end Scaled

/-- The decimal of a double's parts. -/
def ofBinary? (x : Binary64) : Option Decimal :=
  if x.significand = 0 then some ⟨x.negative, 0, 0⟩
  else do
    let start : Scaled := ⟨x.significand, x.exponent⟩
    let fives ←
      if x.exponent < 0 then some (Scaled.gainFives (-x.exponent).toNat start)
      else Scaled.loseFives x.exponent.toNat start
    let whole ← Scaled.gainTens fives.e10.toNat fives.b
    let fitted := Scaled.dropExcess (fives.places - maxScale) ⟨whole, min fives.e10 0⟩
    let clean := Scaled.dropNoise fitted.places fitted
    let bare := Scaled.dropZeros clean.places clean
    return ⟨x.negative, bare.b, bare.places⟩

/-- The decimal of a double. What is not finite or too large has none. -/
def ofFloat? (x : Float) : Option Decimal := (Binary64.ofFloat? x).bind ofBinary?

/-! ## Products -/

/-- The least number of digits, from `d` on, that has to be dropped from `p` to bring it below the
mantissa bound, if `left` more digits may be dropped. -/
def dropToFit (p : Nat) : Nat → Nat → Option Nat
  | left, d =>
    if p / tenTo d < mantissaBound then some d
    else match left with
      | 0 => none
      | left + 1 => dropToFit p left (d + 1)

/-- A mantissa that rounding may have taken to the bound loses its last digit. -/
def settle? (negative : Bool) (mantissa scale : Nat) : Option Decimal :=
  if mantissa < mantissaBound then some ⟨negative, mantissa, scale⟩
  else if scale = 0 then none
  else some ⟨negative, (mantissaBound + 5) / 10, scale - 1⟩

/-- A first guess, from its number of bits, of how many digits of a long product go. -/
def excessDigits (p : Nat) : Nat :=
  if p < mantissaBound then 0 else (Nat.log2 p + 1 - 97) * 77 / 256 + 1

/-- The product, if it is in range. Two short mantissas whose scales are very long give zero. -/
def mul? (x y : Decimal) : Option Decimal :=
  let negative := x.negative != y.negative
  let p := x.mantissa * y.mantissa
  let s := x.scale + y.scale
  if p = 0 then some zero
  else if x.mantissa < twoTo 32 ∧ y.mantissa < twoTo 32 then
    if 47 < s then some zero
    else if maxScale < s then some ⟨negative, roundHalfEven p (tenTo (s - maxScale)), maxScale⟩
    else some ⟨negative, p, s⟩
  else if p < mantissaBound ∧ s ≤ maxScale then some ⟨negative, p, s⟩
  else if s < excessDigits p then none
  else do
    let least := max (excessDigits p) (s - maxScale)
    let d ← dropToFit p (s - least) least
    settle? negative (roundHalfEven p (tenTo d)) (s - d)

/-! ## Quotients -/

/-- The largest of the steps `9, 8, …, 0` that keeps the scale and the quotient in range. -/
def widestStep (q : Nat) (s : Int) : Nat :=
  ((List.range 10).reverse.find? fun x : Nat =>
    decide (s + (x : Int) ≤ (maxScale : Int)) && decide (q * tenTo x < mantissaBound)).getD 0

/-- Where a division stands: the quotient so far, its scale, and whether a remainder was seen. -/
structure Quotient where
  q : Nat
  s : Int
  inexact : Bool
  deriving DecidableEq, Repr

/-- Extends a quotient by up to nine digits at a time until nothing remains or no digit fits. The
last digit is rounded to the nearest, a half to the even neighbour. -/
def divideFrom (divisor : Nat) : Nat → Nat → Quotient → Option Quotient
  | 0, _, _ => none
  | n + 1, r, ⟨q, s, inexact⟩ =>
    let extend (x : Nat) (inexact : Bool) : Option Quotient :=
      let q' := q * tenTo x + r * tenTo x / divisor
      let r' := r * tenTo x % divisor
      let s' := s + x
      if q' < mantissaBound then divideFrom divisor n r' ⟨q', s', inexact⟩
      else if s' ≤ 0 then none
      else
        let half := q' % 10 = 5 ∧ r' = 0
        let up := if half then q' / 10 % 2 = 1 else 5 ≤ q' % 10
        some ⟨if up then q' / 10 + 1 else q' / 10, s' - 1, inexact⟩
    if r = 0 then
      if 0 ≤ s then some ⟨q, s, inexact⟩
      else
        let x := min 9 (-s).toNat
        if q * tenTo x < mantissaBound then extend x inexact else none
    else
      let x := widestStep q s
      if x < 9 ∧ s + x < 0 then none
      else if x = 0 then
        let rounded := roundHalfEven (q * divisor + r) divisor
        if rounded < mantissaBound then some ⟨rounded, s, true⟩
        else if s = 0 then none
        else some ⟨(mantissaBound + 5) / 10, s - 1, true⟩
      else extend x true

/-- Drops groups of eight zeros from a quotient whose low word is empty. -/
def dropEightZeros : Nat → Nat → Nat → Nat × Nat
  | 0, q, s => (q, s)
  | n + 1, q, s =>
    if q % twoTo 32 = 0 ∧ 8 ≤ s ∧ q % tenTo 8 = 0 then dropEightZeros n (q / tenTo 8) (s - 8)
    else (q, s)

/-- Drops a group of so many zeros once. -/
def dropZeroGroup (k : Nat) (x : Nat × Nat) : Nat × Nat :=
  if k ≤ x.2 ∧ x.1 % tenTo k = 0 then (x.1 / tenTo k, x.2 - k) else x

/-- Drops zeros at the end of a quotient, in groups of eight, four, two and one. -/
def dropQuotientZeros (q s : Nat) : Nat × Nat :=
  dropZeroGroup 1 (dropZeroGroup 2 (dropZeroGroup 4 (dropEightZeros (s / 8) q s)))

/-- The quotient, if there is one in range. -/
def div? (x y : Decimal) : Option Decimal :=
  if y.mantissa = 0 then none
  else if x.mantissa = 0 then some zero
  else do
    let s : Int := (x.scale : Int) - y.scale
    let first : Quotient := ⟨x.mantissa / y.mantissa, s, false⟩
    let fuel := (maxScale - s).toNat + 2
    let quotient ← divideFrom y.mantissa fuel (x.mantissa % y.mantissa) first
    let negative := x.negative != y.negative
    let (q, scale) :=
      if quotient.inexact then dropQuotientZeros quotient.q quotient.s.toNat
      else (quotient.q, quotient.s.toNat)
    return ⟨negative, q, scale⟩

/-! ## Reading off -/

/-- The integer part of the magnitude. -/
def integerPart (x : Decimal) : Nat := x.mantissa / tenTo x.scale

/-- The decimal with all its places. -/
def text (x : Decimal) : String :=
  let digits := decimalDigits x.mantissa
  let filled := List.replicate (x.scale + 1 - digits.length) '0' ++ digits
  let split := filled.length - x.scale
  String.ofList <| signed x.negative <|
    if x.scale = 0 then digits else filled.take split ++ '.' :: filled.drop split

end Decimal

end RebateRelay.Number
