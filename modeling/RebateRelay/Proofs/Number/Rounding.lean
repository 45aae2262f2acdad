import Mathlib.Algebra.Order.Field.Rat
import Mathlib.Data.Nat.Cast.Order.Field
import Mathlib.Tactic.FieldSimp
import Mathlib.Tactic.Linarith
import Mathlib.Tactic.Positivity
import Mathlib.Tactic.Ring
import RebateRelay.Number.Decimal

/-!
# Decimals and exact numbers

Products of decimals are rounded to the digits that a decimal has room for. What rounding takes or
adds is bounded here, for every pair of operands: half a unit in the last of twenty-eight places, or
half a unit in the last of as many digits as ninety-six bits are sure to hold, whichever is more.
`tolerance` is that bound. Multiplication by a power of ten that leaves the result in range adds
nothing at all.
-/

namespace RebateRelay.Number

@[simp] theorem cast_tenTo (k : ℕ) : ((tenTo k : ℕ) : ℚ) = 10 ^ k := by
  simp [tenTo]

@[simp] theorem cast_twoTo (k : ℕ) : ((twoTo k : ℕ) : ℚ) = 2 ^ k := by
  simp [twoTo]

theorem tenTo_add (j k : ℕ) : tenTo (j + k) = tenTo j * tenTo k := pow_add 10 j k

theorem tenTo_le_tenTo {j k : ℕ} : tenTo j ≤ tenTo k ↔ j ≤ k :=
  Nat.pow_le_pow_iff_right (by decide)

/-! ## Rounding a quotient -/

section RoundHalfEven

variable {n d : ℕ}

theorem two_mul_le_roundHalfEven (hd : 0 < d) : 2 * n ≤ (2 * roundHalfEven n d + 1) * d := by
  have whole := Nat.div_add_mod n d
  have below := Nat.mod_lt n hd
  have up : (2 * (n / d + 1) + 1) * d = 2 * (d * (n / d)) + 3 * d := by ring
  have down : (2 * (n / d) + 1) * d = 2 * (d * (n / d)) + d := by ring
  unfold roundHalfEven
  simp only
  split_ifs <;> first | rw [up] | rw [down]
  all_goals omega

theorem roundHalfEven_le_two_mul (hd : 0 < d) : 2 * roundHalfEven n d * d ≤ 2 * n + d := by
  have whole := Nat.div_add_mod n d
  have below := Nat.mod_lt n hd
  have up : 2 * (n / d + 1) * d = 2 * (d * (n / d)) + 2 * d := by ring
  have down : 2 * (n / d) * d = 2 * (d * (n / d)) := by ring
  unfold roundHalfEven
  simp only
  split_ifs <;> first | rw [up] | rw [down]
  all_goals omega

/-- Rounding moves a quotient by no more than a half. -/
theorem abs_roundHalfEven_sub_le (hd : 0 < d) : |(roundHalfEven n d : ℚ) - n / d| ≤ 1 / 2 := by
  have positive : (0 : ℚ) < d := by exact_mod_cast hd
  have above : 2 * (n : ℚ) ≤ (2 * roundHalfEven n d + 1) * d := by
    exact_mod_cast two_mul_le_roundHalfEven hd
  have below : 2 * (roundHalfEven n d : ℚ) * d ≤ 2 * n + d := by
    exact_mod_cast roundHalfEven_le_two_mul hd
  rw [abs_le, neg_le_sub_iff_le_add, sub_le_iff_le_add', div_le_iff₀ positive,
    ← sub_le_iff_le_add, le_div_iff₀ positive]
  constructor <;> linarith

theorem roundHalfEven_le_succ (n d : ℕ) : roundHalfEven n d ≤ n / d + 1 := by
  unfold roundHalfEven
  simp only
  split_ifs <;> omega

/-- A quotient that comes out even is not rounded. -/
theorem roundHalfEven_mul (q : ℕ) (hd : 0 < d) : roundHalfEven (q * d) d = q := by
  simp [roundHalfEven, Nat.mul_div_cancel q hd, hd]

end RoundHalfEven

namespace Decimal

/-- The number that a decimal stands for, without its sign. -/
def magnitude (x : Decimal) : ℚ := x.mantissa / 10 ^ x.scale

/-- The number that a decimal stands for. -/
def value (x : Decimal) : ℚ := if x.negative then -x.magnitude else x.magnitude

/-- The most by which rounding to a decimal moves a number: half a unit in the last place, which is
the last that is allowed or else the last for which there is room. -/
def tolerance (v : ℚ) : ℚ := max (1 / 10 ^ 28) (10 * v / 2 ^ 96) / 2

/-- A decimal for a number that may not be one: it is in range, and rounding accounts for what it
is away from the number. -/
structure IsNear (z : Decimal) (v : ℚ) : Prop where
  valid : z.Valid
  near : |z.magnitude - v| ≤ tolerance v

/-- A decimal that is a number, or the nearest to it at the last place that is allowed or for which
there is room. A mantissa that rounding takes to its bound gives up a place. -/
inductive IsRounded (v : ℚ) : Decimal → Prop
  /-- Nothing is rounded. -/
  | exact {z : Decimal} (valid : z.Valid) (same : z.magnitude = v) : IsRounded v z
  /-- It is off by half a unit at most, and there is no next place. -/
  | nearest {negative : Bool} {m places : ℕ} (inside : m < mantissaBound)
    (allowed : places ≤ maxScale) (near : |(m : ℚ) - v * 10 ^ places| ≤ 1 / 2)
    (needed : places = maxScale ∨ 2 ^ 96 ≤ 10 * (v * 10 ^ places)) :
    IsRounded v ⟨negative, m, places⟩
  /-- It stands for the bound itself. -/
  | full {negative : Bool} {places : ℕ} (allowed : places + 1 ≤ maxScale)
    (near : |2 ^ 96 - v * 10 ^ (places + 1)| ≤ 1 / 2) :
    IsRounded v ⟨negative, (mantissaBound + 5) / 10, places⟩

theorem cast_mantissaBound : ((mantissaBound : ℕ) : ℚ) = 2 ^ 96 := by
  simp [mantissaBound]

theorem magnitude_nonneg (x : Decimal) : 0 ≤ x.magnitude := by
  unfold magnitude
  positivity

theorem value_of_not_negative {x : Decimal} (sign : x.negative = false) :
    x.value = x.magnitude := by
  simp [value, sign]

theorem not_negative_of_pos {x : Decimal} (positive : 0 < x.value) : x.negative = false := by
  by_contra sign
  rw [value, if_pos (by simpa using sign)] at positive
  have nonneg := x.magnitude_nonneg
  linarith

theorem magnitude_eq_zero {x : Decimal} : x.magnitude = 0 ↔ x.mantissa = 0 := by
  simp [magnitude]

theorem magnitude_pos {x : Decimal} (h : x.mantissa ≠ 0) : 0 < x.magnitude :=
  x.magnitude_nonneg.lt_of_ne' (mt magnitude_eq_zero.mp h)

@[simp] theorem magnitude_zero : zero.magnitude = 0 := by
  simp [magnitude, zero]

@[simp] theorem magnitude_ofNat (n : ℕ) : (ofNat n).magnitude = n := by
  simp [magnitude, ofNat]

theorem integerPart_le (x : Decimal) : (x.integerPart : ℚ) ≤ x.magnitude := by
  have cut : ((x.mantissa / tenTo x.scale : ℕ) : ℚ) ≤ x.mantissa / (tenTo x.scale : ℕ) :=
    Nat.cast_div_le
  rwa [cast_tenTo] at cut

theorem integerPart_le_mantissa (x : Decimal) : x.integerPart ≤ x.mantissa := Nat.div_le_self _ _

theorem lt_integerPart_add_one (x : Decimal) : x.magnitude < x.integerPart + 1 := by
  have unit : (0 : ℚ) < 10 ^ x.scale := by positivity
  have cut : x.mantissa < (x.mantissa / tenTo x.scale + 1) * tenTo x.scale := by
    rw [add_mul, one_mul]
    exact Nat.lt_div_mul_add (tenTo_pos _)
  rw [magnitude, div_lt_iff₀ unit, ← cast_tenTo]
  exact_mod_cast cut

/-! ## The bound -/

theorem tolerance_pos (v : ℚ) : 0 < tolerance v :=
  half_pos (lt_max_of_lt_left (by positivity))

theorem tolerance_mono {v w : ℚ} (h : v ≤ w) : tolerance v ≤ tolerance w := by
  unfold tolerance
  gcongr

theorem tolerance_le {v : ℚ} (h : 0 ≤ v) : tolerance v ≤ 64 / 10 ^ 30 * (v + 1) := by
  have least : (1 / 10 ^ 28 : ℚ) ≤ 2 * (64 / 10 ^ 30 * (v + 1)) := by linarith
  have part : 10 * v / 2 ^ 96 ≤ 2 * (64 / 10 ^ 30 * (v + 1)) := by linarith
  unfold tolerance
  linarith [max_le least part]

/-- Half a unit in the last place that is allowed is within the bound. -/
theorem half_place_le_tolerance (v : ℚ) : 1 / 2 / 10 ^ maxScale ≤ tolerance v := by
  have first := le_max_left (1 / 10 ^ 28 : ℚ) (10 * v / 2 ^ 96)
  unfold tolerance maxScale
  linarith

/-- Half a unit in a place is within the bound when there is no room for the next. -/
theorem half_unit_le_tolerance {v unit : ℚ} (full : 2 ^ 96 * unit ≤ 10 * v) :
    unit / 2 ≤ tolerance v := by
  have second := le_max_right (1 / 10 ^ 28 : ℚ) (10 * v / 2 ^ 96)
  have room : unit ≤ 10 * v / 2 ^ 96 := by
    rw [le_div_iff₀ (by positivity)]
    linarith
  unfold tolerance
  linarith

/-- Five units in a place are within the bound when the number fills it. -/
theorem five_units_le_tolerance {v unit : ℚ} (full : 2 ^ 96 * unit ≤ v) :
    5 * unit ≤ tolerance v := by
  have wide : 2 ^ 96 * (10 * unit) ≤ 10 * v := by linarith
  have half := half_unit_le_tolerance wide
  linarith

theorem IsNear.of_eq {z : Decimal} {v : ℚ} (valid : z.Valid) (exact : z.magnitude = v) :
    z.IsNear v := by
  refine ⟨valid, ?_⟩
  rw [exact, sub_self, abs_zero]
  exact (tolerance_pos v).le

theorem cast_shortened_bound : (((mantissaBound + 5) / 10 : ℕ) : ℚ) * 10 = 2 ^ 96 + 4 := by
  have digits : (mantissaBound + 5) / 10 * 10 = 2 ^ 96 + 4 := by decide
  exact_mod_cast digits

/-- When rounding takes a mantissa to its bound, the decimal with one place less that stands for it
is still near. -/
theorem IsNear.of_full {negative : Bool} {v : ℚ} {places : ℕ} (allowed : places + 1 ≤ maxScale)
    (full : |2 ^ 96 - v * 10 ^ (places + 1)| ≤ 1 / 2) :
    IsNear ⟨negative, (mantissaBound + 5) / 10, places⟩ v := by
  have inside : (mantissaBound + 5) / 10 < mantissaBound := by decide
  refine ⟨⟨inside, by simp only; omega⟩, ?_⟩
  obtain ⟨above, below⟩ := abs_le.mp full
  have unit : (0 : ℚ) < 1 / 10 ^ (places + 1) := by positivity
  have shown : magnitude ⟨negative, (mantissaBound + 5) / 10, places⟩ =
      (2 ^ 96 + 4) * (1 / 10 ^ (places + 1)) := by
    rw [magnitude, ← cast_shortened_bound]
    field_simp
    ring
  have exact : v = v * 10 ^ (places + 1) * (1 / 10 ^ (places + 1)) := by field_simp
  -- The rounded mantissa is four units off its bound, and the number half a unit.
  have room : 2 ^ 96 * (9 / 10 * (1 / 10 ^ (places + 1))) ≤ v := by
    rw [exact]
    nlinarith
  have wide := five_units_le_tolerance room
  rw [shown, exact, ← sub_mul, abs_mul, abs_of_pos unit]
  refine le_trans ?_ (exact ▸ wide)
  have off : |2 ^ 96 + 4 - v * 10 ^ (places + 1)| ≤ 9 / 2 := by
    rw [abs_le]
    constructor <;> linarith
  nlinarith

/-! ## Products -/

/-- Digits are dropped until the rest is in range, and no more of them. -/
theorem dropToFit_spec {p left d d' : ℕ} (found : dropToFit p left d = some d') :
    d ≤ d' ∧ d' ≤ d + left ∧ p / tenTo d' < mantissaBound ∧
      (d' = d ∨ mantissaBound * tenTo d' ≤ 10 * p) := by
  induction left generalizing d with
  | zero =>
      unfold dropToFit at found
      split at found
      case isTrue fits =>
        cases found
        exact ⟨le_rfl, le_rfl, fits, Or.inl rfl⟩
      case isFalse => cases found
  | succ left ih =>
      unfold dropToFit at found
      split at found
      case isTrue fits =>
        cases found
        exact ⟨le_rfl, Nat.le_add_right _ _, fits, Or.inl rfl⟩
      case isFalse large =>
        obtain ⟨above, below, fits, least⟩ := ih found
        refine ⟨by omega, by omega, fits, Or.inr ?_⟩
        rcases least with rfl | wide
        · have whole : mantissaBound * tenTo d ≤ p :=
            (Nat.le_div_iff_mul_le (tenTo_pos d)).mp (not_lt.mp large)
          rw [tenTo_succ, ← mul_assoc]
          omega
        · exact wide

/-- The first guess of how many digits go is never too large. -/
theorem excessDigits_le {p : ℕ} (excess : 0 < excessDigits p) :
    mantissaBound * tenTo (excessDigits p) ≤ 10 * p := by
  unfold excessDigits at excess ⊢
  split at excess
  case isTrue => exact absurd excess (lt_irrefl 0)
  case isFalse large =>
    rw [if_neg large, tenTo_succ]
    have positive : p ≠ 0 := by
      rintro rfl
      exact large (by decide)
    have bits : 96 ≤ Nat.log2 p := (Nat.le_log2 positive).mpr (not_lt.mp large)
    obtain ⟨k, length⟩ := Nat.exists_eq_add_of_le bits
    have few : tenTo ((Nat.log2 p + 1 - 97) * 77 / 256) ≤ 2 ^ k := by
      -- The guess takes 77 / 256 for the logarithm of two.
      have log : (10 : ℕ) ^ 77 ≤ 2 ^ 256 := by decide
      refine (Nat.pow_le_pow_iff_left (by decide : 256 ≠ 0)).mp ?_
      calc tenTo ((Nat.log2 p + 1 - 97) * 77 / 256) ^ 256
          = 10 ^ ((Nat.log2 p + 1 - 97) * 77 / 256 * 256) := (pow_mul 10 _ _).symm
        _ ≤ 10 ^ (77 * k) := Nat.pow_le_pow_right (by decide) (by omega)
        _ = (10 ^ 77) ^ k := pow_mul 10 77 k
        _ ≤ (2 ^ 256) ^ k := Nat.pow_le_pow_left log k
        _ = (2 ^ k) ^ 256 := by rw [← pow_mul, ← pow_mul, mul_comm]
    have least : 2 ^ (96 + k) ≤ p := length ▸ Nat.log2_self_le positive
    have bound : mantissaBound * 2 ^ k = 2 ^ (96 + k) := (pow_add 2 96 k).symm
    nlinarith

/-- How a product of mantissas becomes a decimal: what it is cut to, given its places. -/
inductive Cut (negative : Bool) (p s : ℕ) : Decimal → Prop
  /-- It is zero. -/
  | nothing (none : p = 0) : Cut negative p s zero
  /-- It is too small to show. -/
  | vanishes (small : p < twoTo 32 * twoTo 32) (long : 47 < s) : Cut negative p s zero
  /-- It is in range. -/
  | fits (inside : p < mantissaBound) (allowed : s ≤ maxScale) : Cut negative p s ⟨negative, p, s⟩
  /-- It is rounded to the largest scale that is allowed and leaves it in range. -/
  | rounds {z : Decimal} (d : ℕ) (dropped : d ≤ s) (inside : p / tenTo d < mantissaBound)
    (allowed : s - d ≤ maxScale) (needed : s - d = maxScale ∨ mantissaBound * tenTo d ≤ 10 * p)
    (settled : settle? negative (roundHalfEven p (tenTo d)) (s - d) = some z) :
    Cut negative p s z

/-- A product of two short mantissas that has too many places is rounded to the largest scale. -/
theorem Cut.of_short {negative : Bool} {p s : ℕ} (small : p < twoTo 32 * twoTo 32)
    (beyond : maxScale < s) :
    Cut negative p s ⟨negative, roundHalfEven p (tenTo (s - maxScale)), maxScale⟩ := by
  have inside : p / tenTo (s - maxScale) ≤ twoTo 32 * twoTo 32 :=
    (Nat.div_le_self _ _).trans small.le
  have rounded := roundHalfEven_le_succ p (tenTo (s - maxScale))
  have room : twoTo 32 * twoTo 32 + 1 < mantissaBound := by decide
  have places : s - (s - maxScale) = maxScale := by omega
  refine .rounds (s - maxScale) (by omega) (by omega) (by omega) (Or.inl places) ?_
  rw [settle?, if_pos (by omega), places]

/-- A product that does not fit as it is loses digits from the first guess on, until it fits. -/
theorem Cut.of_dropToFit {negative : Bool} {p s d : ℕ} {z : Decimal}
    (large : ¬(p < mantissaBound ∧ s ≤ maxScale)) (enough : excessDigits p ≤ s)
    (found : dropToFit p (s - max (excessDigits p) (s - maxScale))
      (max (excessDigits p) (s - maxScale)) = some d)
    (settled : settle? negative (roundHalfEven p (tenTo d)) (s - d) = some z) :
    Cut negative p s z := by
  obtain ⟨above, below, inside, least⟩ := dropToFit_spec found
  refine .rounds d (by omega) inside (by omega) ?_ settled
  rcases least with rfl | wide
  · rcases le_total (excessDigits p) (s - maxScale) with le | le
    · rw [max_eq_right le]
      by_cases beyond : maxScale ≤ s
      · exact Or.inl (by omega)
      · -- Nothing has to go, so the product would have been in range.
        have none : excessDigits p = 0 := by omega
        have inside : p < mantissaBound := by
          by_contra outside
          rw [excessDigits, if_neg outside] at none
          omega
        exact absurd ⟨inside, by omega⟩ large
    · rw [max_eq_left le] at inside ⊢
      rcases Nat.eq_zero_or_pos (excessDigits p) with none | excess
      · rw [none] at inside le
        rw [tenTo_zero, Nat.div_one] at inside
        exact absurd ⟨inside, by omega⟩ large
      · exact Or.inr (excessDigits_le excess)
  · exact Or.inr wide

theorem cut_mul? {x y z : Decimal} (product : x.mul? y = some z) :
    Cut (x.negative != y.negative) (x.mantissa * y.mantissa) (x.scale + y.scale) z := by
  unfold mul? at product
  generalize (x.negative != y.negative) = negative at product ⊢
  generalize scale : x.scale + y.scale = s at product ⊢
  simp only at product
  split at product
  case isTrue none =>
    cases product
    exact .nothing none
  case isFalse nonzero =>
    split at product
    case isTrue short =>
      have small : x.mantissa * y.mantissa < twoTo 32 * twoTo 32 :=
        Nat.mul_lt_mul'' short.1 short.2
      split at product
      case isTrue long =>
        cases product
        exact .vanishes small long
      case isFalse near =>
        split at product <;> cases product
        case isTrue.refl beyond => exact .of_short small beyond
        case isFalse.refl allowed => exact .fits (small.trans (by decide)) (by omega)
    case isFalse =>
      split at product
      case isTrue fits =>
        cases product
        exact .fits fits.1 fits.2
      case isFalse large =>
        split at product
        case isTrue => cases product
        case isFalse enough =>
          obtain ⟨d, found, settled⟩ := Option.bind_eq_some_iff.mp product
          exact .of_dropToFit large (by omega) found settled

/-- Half a unit of a mantissa that was rounded is half a unit of the number. -/
theorem abs_scaled_sub_le {m : ℕ} {v bound : ℚ} {places : ℕ}
    (near : |(m : ℚ) - v * 10 ^ places| ≤ bound) :
    |(m : ℚ) / 10 ^ places - v| ≤ bound * (1 / 10 ^ places) := by
  have unit : (0 : ℚ) < 1 / 10 ^ places := by positivity
  have exact : (m : ℚ) / 10 ^ places - v = (m - v * 10 ^ places) * (1 / 10 ^ places) := by
    field_simp
  rw [exact, abs_mul, abs_of_pos unit]
  gcongr

/-- A mantissa that was rounded at a place that is allowed, and at the last for which there is room,
makes a decimal that is rounded. -/
theorem isRounded_of_settle? {negative : Bool} {m places : ℕ} {v : ℚ} {z : Decimal}
    (near : |(m : ℚ) - v * 10 ^ places| ≤ 1 / 2) (inside : m ≤ mantissaBound)
    (allowed : places ≤ maxScale) (needed : places = maxScale ∨ 2 ^ 96 ≤ 10 * (v * 10 ^ places))
    (settled : settle? negative m places = some z) : z.IsRounded v := by
  unfold settle? at settled
  split at settled
  case isTrue fits =>
    cases settled
    exact .nearest fits allowed near needed
  case isFalse full =>
    have all : m = mantissaBound := by omega
    cases places with
    | zero => cases settled
    | succ places =>
        cases settled
        refine .full allowed ?_
        rwa [all, cast_mantissaBound] at near

/-- A decimal that is rounded is near. -/
theorem IsRounded.isNear {v : ℚ} {z : Decimal} (rounded : z.IsRounded v) : z.IsNear v := by
  cases rounded with
  | exact valid same => exact .of_eq valid same
  | @nearest _ m places inside allowed near needed =>
      refine ⟨⟨inside, allowed⟩, (abs_scaled_sub_le near).trans ?_⟩
      rcases needed with rfl | full
      · rw [← div_eq_mul_one_div]
        exact half_place_le_tolerance v
      · have unit : (0 : ℚ) < 10 ^ places := by positivity
        have room : 2 ^ 96 * (1 / 10 ^ places) ≤ 10 * v := by
          rw [mul_one_div, div_le_iff₀ unit]
          linarith
        have half := half_unit_le_tolerance room
        linarith
  | full allowed near => exact .of_full allowed near

/-- A decimal that is rounded is the number, or it is off by half a unit of its last place at most,
and that is the last place that is allowed or the digits leave no room for the next. -/
theorem IsRounded.last_place {v : ℚ} {z : Decimal} (rounded : z.IsRounded v) :
    z.magnitude = v ∨ |(z.mantissa : ℚ) - v * 10 ^ z.scale| ≤ 1 / 2 ∧
      (z.scale = maxScale ∨ mantissaBound ≤ 10 * z.mantissa) := by
  have bound : mantissaBound = 79228162514264337593543950336 := by decide
  cases rounded with
  | exact valid same => exact Or.inl same
  | @nearest _ m places inside allowed near needed =>
      refine Or.inr ⟨near, needed.imp_right fun full => ?_⟩
      obtain ⟨low, high⟩ := abs_le.mp near
      have digits : (2 : ℚ) ^ 96 ≤ 10 * m + 5 := by linarith
      have digits : mantissaBound ≤ 10 * m + 5 := by
        unfold mantissaBound twoTo
        exact_mod_cast digits
      -- The bound ends in a six, and what is compared with it in a zero.
      simp only
      omega
  | @full _ places allowed near =>
      have cut := cast_shortened_bound
      obtain ⟨low, high⟩ := abs_le.mp near
      rw [pow_succ (10 : ℚ) places] at low high
      refine Or.inr ⟨abs_le.mpr ⟨?_, ?_⟩, Or.inr (by simp only; omega)⟩ <;> simp only <;> linarith

/-- A product that gives up some of its places. -/
theorem div_mul_tenTo {p s d : ℕ} (dropped : d ≤ s) :
    (p : ℚ) / 10 ^ s * 10 ^ (s - d) = p / (tenTo d : ℕ) := by
  have split : (10 : ℚ) ^ s = 10 ^ (s - d) * 10 ^ d := by
    rw [← pow_add, Nat.sub_add_cancel dropped]
  rw [cast_tenTo, split]
  field_simp

/-- What becomes of a product of mantissas is near the product. -/
theorem Cut.isNear {negative : Bool} {p s : ℕ} {z : Decimal} (cut : Cut negative p s z) :
    z.IsNear (p / 10 ^ s) := by
  have unit : (0 : ℚ) < 10 ^ s := by positivity
  cases cut with
  | nothing none => exact .of_eq (by decide) (by simp [none])
  | vanishes small long =>
      refine ⟨by decide, ?_⟩
      have tiny : (p : ℚ) / 10 ^ s ≤ 1 / 2 / 10 ^ maxScale := by
        have places : (10 : ℚ) ^ 48 ≤ 10 ^ s := pow_le_pow_right₀ (by norm_num) long
        have bits : (p : ℚ) ≤ 2 ^ 64 := by exact_mod_cast small.le
        rw [div_le_iff₀ unit, maxScale]
        linarith
      rw [magnitude_zero, zero_sub, abs_neg, abs_of_nonneg (by positivity)]
      exact tiny.trans (half_place_le_tolerance _)
  | fits inside allowed => exact .of_eq ⟨inside, allowed⟩ rfl
  | rounds d dropped inside allowed needed settled =>
      refine (isRounded_of_settle? ?_ ?_ allowed ?_ settled).isNear
      · rw [div_mul_tenTo dropped]
        exact abs_roundHalfEven_sub_le (tenTo_pos d)
      · exact (roundHalfEven_le_succ _ _).trans inside
      · refine needed.imp_right fun wide => ?_
        have counts : (2 : ℚ) ^ 96 * (tenTo d : ℕ) ≤ 10 * p := by
          rw [← cast_mantissaBound]
          exact_mod_cast wide
        rw [div_mul_tenTo dropped, mul_div_assoc', le_div_iff₀ (by exact_mod_cast tenTo_pos d)]
        exact counts

theorem magnitude_mul_magnitude (x y : Decimal) : x.magnitude * y.magnitude =
    ((x.mantissa * y.mantissa : ℕ) : ℚ) / 10 ^ (x.scale + y.scale) := by
  rw [magnitude, magnitude, div_mul_div_comm, pow_add]
  push_cast
  rfl

/-- A product is near the exact product. -/
theorem isNear_mul? {x y z : Decimal} (product : x.mul? y = some z) :
    z.IsNear (x.magnitude * y.magnitude) := by
  rw [magnitude_mul_magnitude]
  exact (cut_mul? product).isNear

theorem Cut.not_negative {p s : ℕ} {z : Decimal} (cut : Cut false p s z) : z.negative = false := by
  cases cut with
  | nothing none => rfl
  | vanishes small long => rfl
  | fits inside allowed => rfl
  | rounds d dropped inside allowed needed settled =>
      unfold settle? at settled
      split_ifs at settled <;> cases settled <;> rfl

theorem not_negative_of_mul? {x y z : Decimal} (product : x.mul? y = some z)
    (left : x.negative = false) (right : y.negative = false) : z.negative = false := by
  have cut := cut_mul? product
  rw [left, right] at cut
  exact cut.not_negative

/-- A mantissa times a power of ten loses nothing but zeros. -/
theorem Cut.magnitude_of_tenTo {negative : Bool} {m k s : ℕ} {z : Decimal}
    (cut : Cut negative (m * tenTo k) s z) (room : m < mantissaBound) (allowed : s ≤ maxScale) :
    z.magnitude = (m * tenTo k : ℕ) / 10 ^ s := by
  cases cut with
  | nothing none => simp [none]
  | vanishes small long =>
      have far : maxScale < 47 := by decide
      omega
  | fits inside allowed => rfl
  | rounds d dropped inside _ needed settled =>
      have few : d ≤ k := by
        rcases needed with none | wide
        · omega
        · have below : mantissaBound * tenTo d < mantissaBound * tenTo (k + 1) := by
            calc mantissaBound * tenTo d ≤ 10 * (m * tenTo k) := wide
              _ = m * tenTo (k + 1) := by rw [tenTo_succ]; ring
              _ < mantissaBound * tenTo (k + 1) := Nat.mul_lt_mul_of_pos_right room (tenTo_pos _)
          have powers := Nat.lt_of_mul_lt_mul_left below
          exact Nat.lt_succ_iff.mp (lt_of_not_ge fun le => powers.not_ge (tenTo_le_tenTo.mpr le))
      obtain ⟨j, rfl⟩ := Nat.exists_eq_add_of_le' few
      rw [tenTo_add, ← mul_assoc, Nat.mul_div_cancel _ (tenTo_pos d)] at inside
      rw [tenTo_add, ← mul_assoc, roundHalfEven_mul _ (tenTo_pos d), settle?, if_pos inside]
        at settled
      cases settled
      have split : (10 : ℚ) ^ s = 10 ^ (s - d) * 10 ^ d := by
        rw [← pow_add, Nat.sub_add_cancel dropped]
      rw [magnitude, tenTo_add, split]
      push_cast
      rw [cast_tenTo, cast_tenTo]
      field_simp

/-- A product with few digits and few places is exact. -/
theorem magnitude_mul?_of_inside {x y z : Decimal} (product : x.mul? y = some z)
    (inside : x.mantissa * y.mantissa < mantissaBound) (allowed : x.scale + y.scale ≤ maxScale) :
    z.magnitude = x.magnitude * y.magnitude := by
  have cut := cut_mul? product
  rw [← Nat.mul_one (x.mantissa * y.mantissa), ← tenTo_zero] at cut
  rw [cut.magnitude_of_tenTo inside allowed, magnitude_mul_magnitude, tenTo_zero, Nat.mul_one]

/-- A decimal times a power of ten is exact, if it is in range. -/
theorem magnitude_mul?_tenTo {x z : Decimal} {k : ℕ} (valid : x.Valid)
    (product : x.mul? (ofNat (tenTo k)) = some z) : z.magnitude = x.magnitude * 10 ^ k := by
  have exact := (cut_mul? product).magnitude_of_tenTo valid.1 valid.2
  rw [exact, magnitude]
  push_cast
  rw [cast_tenTo]
  simp only [ofNat, add_zero]
  ring

end Decimal

end RebateRelay.Number
