import RebateRelay.Proofs.Number.NearestDouble
import RebateRelay.Proofs.Number.Rounding

/-!
# The decimal of a double

A double of ordinary size is a whole number over a power of two. It is turned into digits and places
by trading factors, where next to nothing is lost; then digits are dropped from the end, one at a
time, each time rounding up from five. Dropping digits that way is not the same as rounding once:
a rest of a little more than four ninths of a unit can come out as a whole one.
-/

namespace RebateRelay.Number

namespace Decimal

namespace Scaled

/-- The number that an integer and a power of ten stand for. -/
def value (x : Scaled) : ℚ := x.b * 10 ^ x.e10

theorem value_nonneg (x : Scaled) : 0 ≤ x.value := by
  unfold value
  positivity

theorem value_of_places {x : Scaled} (behind : x.e10 ≤ 0) : x.value = x.b / 10 ^ x.places := by
  have places : x.e10 = -(x.places : ℤ) := by
    unfold Scaled.places
    omega
  rw [value, places, zpow_neg, zpow_natCast, div_eq_mul_inv]

/-! ## Trading factors -/

/-- The part that is lost, at most, when a factor of five is moved. -/
def loss : ℚ := 5 / 2 ^ 96

theorem one_sub_loss_nonneg : 0 ≤ 1 - loss := by
  norm_num [loss]

/-- One factor of five is moved, which is exact unless half of a large odd integer is taken. -/
theorem gainFives_step (n : ℕ) (x : Scaled) :
    ∃ y, gainFives (n + 1) x = gainFives n y ∧ y.e10 ≤ x.e10 + 1 ∧ y.value ≤ x.value * 5 ∧
      x.value * 5 * (1 - loss) ≤ y.value := by
  obtain ⟨b, e⟩ := x
  have exact : ∀ y : Scaled, y.value = value ⟨b, e⟩ * 5 →
      y.value ≤ value ⟨b, e⟩ * 5 ∧ value ⟨b, e⟩ * 5 * (1 - loss) ≤ y.value := by
    intro y same
    have nonneg := y.value_nonneg
    rw [← same]
    exact ⟨le_rfl, mul_le_of_le_one_right nonneg (by norm_num [loss])⟩
  by_cases even : b % 2 = 0
  · refine ⟨⟨b / 2, e + 1⟩, by rw [gainFives, if_pos even], le_rfl, exact _ ?_⟩
    have half : ((b / 2 : ℕ) : ℚ) * 2 = b := by exact_mod_cast (by omega : b / 2 * 2 = b)
    rw [value, value, zpow_add_one₀ (by norm_num), ← half]
    ring
  by_cases room : 5 * b < mantissaBound
  · refine ⟨⟨5 * b, e⟩, by rw [gainFives, if_neg even, if_pos room], by simp, exact _ ?_⟩
    rw [value, value]
    push_cast
    ring
  · refine ⟨⟨b / 2, e + 1⟩, by rw [gainFives, if_neg even, if_neg room], le_rfl, ?_⟩
    have half : ((b / 2 : ℕ) : ℚ) * 2 = (b : ℚ) - 1 := by
      rw [eq_sub_iff_add_eq]
      exact_mod_cast (by omega : b / 2 * 2 + 1 = b)
    have large : (2 : ℚ) ^ 96 ≤ 5 * b := by
      rw [← cast_mantissaBound]
      exact_mod_cast not_lt.mp room
    have unit : (0 : ℚ) < 10 ^ e := by positivity
    have shown : value ⟨b / 2, e + 1⟩ = ((b : ℚ) - 1) * 5 * 10 ^ e := by
      rw [value, zpow_add_one₀ (by norm_num), ← half]
      ring
    rw [shown, value]
    constructor
    · linarith
    · have kept : (b : ℚ) * 5 * (1 - loss) ≤ ((b : ℚ) - 1) * 5 := by
        rw [loss]
        linarith
      calc (b : ℚ) * 10 ^ e * 5 * (1 - loss) = (b : ℚ) * 5 * (1 - loss) * 10 ^ e := by ring
        _ ≤ ((b : ℚ) - 1) * 5 * 10 ^ e := by gcongr

/-- Factors of five are moved with next to no loss, and at most as many of ten come out. -/
theorem gainFives_spec (n : ℕ) (x : Scaled) :
    (gainFives n x).e10 ≤ x.e10 + n ∧ (gainFives n x).value ≤ x.value * 5 ^ n ∧
      x.value * 5 ^ n * (1 - loss) ^ n ≤ (gainFives n x).value := by
  induction n generalizing x with
  | zero => simp [gainFives]
  | succ n ih =>
      obtain ⟨y, step, exponent, above, below⟩ := gainFives_step n x
      obtain ⟨exponent', above', below'⟩ := ih y
      have kept := pow_nonneg one_sub_loss_nonneg n
      rw [step]
      refine ⟨by push_cast; omega, ?_, ?_⟩
      · calc (gainFives n y).value ≤ y.value * 5 ^ n := above'
          _ ≤ x.value * 5 * 5 ^ n := by gcongr
          _ = x.value * 5 ^ (n + 1) := by ring
      · calc x.value * 5 ^ (n + 1) * (1 - loss) ^ (n + 1)
            = x.value * 5 * (1 - loss) * 5 ^ n * (1 - loss) ^ n := by ring
          _ ≤ y.value * 5 ^ n * (1 - loss) ^ n := by gcongr
          _ ≤ (gainFives n y).value := below'

/-! ## Dropping digits -/

/-- Digits that are dropped one by one, each time rounding up from five, take an integer up by less
than five ninths of a unit, or down by less than four ninths. -/
theorem iterate_dropDigit_bounds (n b : ℕ) :
    9 * (10 ^ n * dropDigit^[n] b) + 5 ≤ 9 * b + 5 * 10 ^ n ∧
      9 * b + 4 ≤ 9 * (10 ^ n * dropDigit^[n] b) + 4 * 10 ^ n := by
  induction n with
  | zero => simp
  | succ n ih =>
      obtain ⟨above, below⟩ := ih
      rw [Function.iterate_succ_apply']
      generalize dropDigit^[n] b = c at above below ⊢
      have up : 10 * dropDigit c ≤ c + 5 := by
        unfold dropDigit
        split_ifs <;> omega
      have down : c ≤ 10 * dropDigit c + 4 := by
        unfold dropDigit
        split_ifs <;> omega
      have up := Nat.mul_le_mul_left (10 ^ n) up
      have down := Nat.mul_le_mul_left (10 ^ n) down
      rw [Nat.mul_add] at up down
      rw [pow_succ, mul_assoc]
      omega

theorem abs_lt_of_iterate_dropDigit (n b : ℕ) :
    (dropDigit^[n] b : ℚ) < b / 10 ^ n + 5 / 9 ∧ (b : ℚ) / 10 ^ n < dropDigit^[n] b + 4 / 9 := by
  obtain ⟨above, below⟩ := iterate_dropDigit_bounds n b
  have unit : (0 : ℚ) < 10 ^ n := by positivity
  have above : 9 * (10 ^ n * (dropDigit^[n] b : ℚ)) + 5 ≤ 9 * b + 5 * 10 ^ n := by
    exact_mod_cast above
  have below : 9 * (b : ℚ) + 4 ≤ 9 * (10 ^ n * (dropDigit^[n] b : ℚ)) + 4 * 10 ^ n := by
    exact_mod_cast below
  constructor
  · rw [div_add' _ _ _ unit.ne', lt_div_iff₀ unit]
    linarith
  · rw [div_lt_iff₀ unit]
    linarith

/-- The last digits go, as long as there are more than enough. -/
theorem dropExcess_eq {n : ℕ} {x : Scaled} (enough : 10 ^ n ≤ x.b) :
    dropExcess n x = ⟨dropDigit^[n] x.b, x.e10 + n⟩ := by
  induction n generalizing x with
  | zero => simp [dropExcess]
  | succ n ih =>
      obtain ⟨b, e⟩ := x
      rw [pow_succ] at enough
      have rest : 10 ^ n ≤ b / 10 := (Nat.le_div_iff_mul_le (by decide)).mpr enough
      have some : b / 10 ≠ 0 := ((Nat.pow_pos (by decide)).trans_le rest).ne'
      have digit : b / 10 ≤ dropDigit b := by
        unfold dropDigit
        split_ifs <;> omega
      rw [dropExcess, if_neg some, ih (rest.trans digit), Function.iterate_succ_apply]
      congr 1
      push_cast
      ring

/-- Zeros that go make no difference, and no more go than there are places. -/
theorem value_dropZeros (n : ℕ) (x : Scaled) :
    (dropZeros n x).value = x.value ∧ (dropZeros n x).e10 ≤ x.e10 + n := by
  induction n generalizing x with
  | zero => simp [dropZeros]
  | succ n ih =>
      obtain ⟨b, e⟩ := x
      rw [dropZeros]
      split_ifs with zero
      · obtain ⟨same, places⟩ := ih ⟨b / 10, e + 1⟩
        have tenth : ((b / 10 : ℕ) : ℚ) * 10 = b := by exact_mod_cast (by omega : b / 10 * 10 = b)
        dsimp only at places
        refine ⟨?_, by push_cast; omega⟩
        rw [same, value, value, zpow_add_one₀ (by norm_num), ← tenth]
        ring
      · exact ⟨rfl, by push_cast; omega⟩

end Scaled

open Scaled

/-! ## Shortening -/

/-- How a number becomes a decimal. The digits `b` with so many places stand for it but for next to
nothing; some of them are dropped from the end, so that few places or few digits are left, and the
last one for a reason. -/
structure Shortens (v : ℚ) (b places dropped : ℕ) : Prop where
  below : b / 10 ^ places ≤ v
  above : v * (1 - 1 / 2 ^ 80) ≤ b / 10 ^ places
  enough : dropped ≤ places
  allowed : places - dropped ≤ maxScale
  short : dropped = places ∨ dropDigit^[dropped] b < 2 ^ 52
  needed : dropped = 0 ∨ places - dropped = maxScale ∨ 2 ^ 52 ≤ dropDigit^[dropped - 1] b

/-- What the traded factors lose all together. -/
theorem loss_pow_ge {n : ℕ} (few : n ≤ 72) : 1 - 1 / 2 ^ 80 ≤ (1 - loss) ^ n := by
  have bernoulli := one_add_mul_le_pow (show (-2 : ℚ) ≤ -loss by norm_num [loss]) n
  have few : (n : ℚ) ≤ 72 := by exact_mod_cast few
  have total : (n : ℚ) * loss ≤ 1 / 2 ^ 80 := by
    calc (n : ℚ) * loss ≤ 72 * loss := by
          gcongr
          norm_num [loss]
      _ ≤ 1 / 2 ^ 80 := by norm_num [loss]
  rw [← sub_eq_add_neg] at bernoulli
  linarith

/-- Moving the factors of five turns a power of two into one of ten. -/
theorem value_mul_five_pow {x : Binary64} (ordinary : x.IsOrdinary) :
    Scaled.value ⟨x.significand, x.exponent⟩ * 5 ^ (-x.exponent).toNat = x.value := by
  obtain ⟨n, negated⟩ := Int.eq_ofNat_of_zero_le (show 0 ≤ -x.exponent by
    have := ordinary.greatest
    omega)
  have exponent : x.exponent = -(n : ℤ) := by omega
  rw [Binary64.value_of_positive ordinary.positive, Scaled.value, negated, exponent,
    Int.toNat_natCast, zpow_neg, zpow_neg, zpow_natCast, zpow_natCast,
    show (10 : ℚ) = 2 * 5 by norm_num, mul_pow]
  field_simp

/-- With a double of ordinary size the integer does not run out where places are dropped. -/
theorem pow_excess_le {v : ℚ} {b places : ℕ} (large : 1 / 10 ^ 7 ≤ v)
    (above : v * (1 - 1 / 2 ^ 80) ≤ b / 10 ^ places) : 10 ^ (places - maxScale) ≤ b := by
  have enough : (1 : ℚ) / 10 ^ 8 ≤ b / 10 ^ places := by
    linarith
  rw [div_le_div_iff₀ (by positivity) (by positivity), one_mul] at enough
  have enough : 10 ^ places ≤ b * 10 ^ 8 := by exact_mod_cast enough
  rcases Nat.le_total places maxScale with few | many
  · rw [Nat.sub_eq_zero_of_le few, pow_zero]
    have positive := Nat.pow_pos (n := places) (show 0 < 10 by decide)
    omega
  · obtain ⟨excess, rfl⟩ := Nat.exists_eq_add_of_le many
    rw [Nat.add_sub_cancel_left, maxScale] at *
    rw [pow_add] at enough
    omega

/-- Dropping places and then noise comes to dropping so many digits. -/
theorem exists_shortens {v : ℚ} {x : Scaled} (behind : x.e10 ≤ 0) (large : 1 / 10 ^ 7 ≤ v)
    (below : x.b / 10 ^ x.places ≤ v) (above : v * (1 - 1 / 2 ^ 80) ≤ x.b / 10 ^ x.places) :
    let fitted := dropExcess (x.places - maxScale) x
    ∃ dropped, Shortens v x.b x.places dropped ∧
      dropNoise fitted.places fitted = ⟨dropDigit^[dropped] x.b, x.e10 + dropped⟩ := by
  intro fitted
  have excess : fitted = ⟨dropDigit^[x.places - maxScale] x.b, x.e10 + (x.places - maxScale : ℕ)⟩ :=
    dropExcess_eq (pow_excess_le large above)
  have left : fitted.places = x.places - (x.places - maxScale) := by
    rw [excess]
    unfold Scaled.places
    dsimp only
    omega
  obtain ⟨i, few, clean, stopped, longer⟩ := dropNoise_eq fitted.places fitted
  have digits : dropDigit^[i] fitted.b = dropDigit^[i + (x.places - maxScale)] x.b := by
    rw [excess, Function.iterate_add_apply]
  refine ⟨i + (x.places - maxScale), ⟨below, above, by omega, by omega, ?_, ?_⟩, ?_⟩
  · rw [← digits]
    exact stopped.imp_left (by omega)
  · cases i with
    | zero => omega
    | succ i =>
        have long := longer i (Nat.lt_succ_self i)
        rw [excess, ← Function.iterate_add_apply] at long
        refine Or.inr (Or.inr ?_)
        rwa [show i + 1 + (x.places - maxScale) - 1 = i + (x.places - maxScale) by omega]
  · rw [clean, digits, excess]
    congr 1
    push_cast
    ring

theorem magnitude_dropZeros {x : Scaled} (behind : x.e10 ≤ 0) (negative : Bool) :
    let bare := dropZeros x.places x
    (⟨negative, bare.b, bare.places⟩ : Decimal).magnitude = x.b / 10 ^ x.places := by
  intro bare
  obtain ⟨same, point⟩ := value_dropZeros x.places x
  have covers : x.e10 + x.places ≤ 0 := by
    unfold Scaled.places
    omega
  have behind' : bare.e10 ≤ 0 := point.trans covers
  calc (⟨negative, bare.b, bare.places⟩ : Decimal).magnitude
      = bare.value := (value_of_places behind').symm
    _ = x.value := same
    _ = x.b / 10 ^ x.places := value_of_places behind

/-- The decimal of a double of ordinary size is that of its shortened digits. -/
theorem exists_ofBinary? {x : Binary64} (ordinary : x.IsOrdinary) (large : 1 / 10 ^ 7 ≤ x.value) :
    ∃ z b places dropped, ofBinary? x = some z ∧ z.negative = false ∧
      Shortens x.value b places dropped ∧
      z.magnitude = dropDigit^[dropped] b / 10 ^ (places - dropped) := by
  have low := ordinary.normal.low
  have least := ordinary.least
  have greatest := ordinary.greatest
  obtain ⟨exponent, below, above⟩ :=
    gainFives_spec (-x.exponent).toNat ⟨x.significand, x.exponent⟩
  generalize moved : gainFives (-x.exponent).toNat ⟨x.significand, x.exponent⟩ = fives
    at exponent below above
  have behind : fives.e10 ≤ 0 := by
    dsimp only at exponent
    omega
  rw [value_mul_five_pow ordinary, value_of_places behind] at below above
  have above : x.value * (1 - 1 / 2 ^ 80) ≤ fives.b / 10 ^ fives.places := by
    refine le_trans ?_ above
    have positive : 0 ≤ x.value := by linarith
    gcongr
    exact loss_pow_ge (by omega)
  obtain ⟨dropped, shortens, clean⟩ := exists_shortens behind large below above
  have enough := shortens.enough
  generalize shortened : (⟨dropDigit^[dropped] fives.b, fives.e10 + dropped⟩ : Scaled) = short
    at clean
  have behind' : short.e10 ≤ 0 := by
    subst shortened
    unfold Scaled.places at enough
    dsimp only
    omega
  have left : short.places = fives.places - dropped := by
    subst shortened
    unfold Scaled.places
    dsimp only
    omega
  have converted : ofBinary? x =
      some ⟨false, (dropZeros short.places short).b, (dropZeros short.places short).places⟩ := by
    rw [ofBinary?, if_neg (by omega), if_pos (by omega)]
    simp only [Option.bind_eq_bind, Option.bind_some, moved, Int.toNat_of_nonpos behind, gainTens,
      min_eq_left behind]
    rw [clean, ordinary.positive]
    rfl
  refine ⟨_, fives.b, fives.places, dropped, converted, rfl, shortens, ?_⟩
  rw [magnitude_dropZeros behind', left, ← shortened]

/-! ## Numbers of few digits -/

section Digits

variable {v d : ℚ} {b places dropped n j k : ℕ}

/-- A number is as near to another as a double is to the number that it stands for. -/
structure IsClose (v d : ℚ) : Prop where
  of_number : |v - d| ≤ d / 2 ^ 53
  of_double : |v - d| ≤ v / 2 ^ 53

/-- The digits of a number that is close to whole units are those units, or one more. -/
theorem IsClose.eq_or_succ (close : IsClose v d) (whole : d * 10 ^ k = n) {c : ℕ}
    (up : (c : ℚ) < v * 10 ^ k + 5 / 9) (down : v * 10 ^ k * (1 - 1 / 2 ^ 80) < c + 4 / 9)
    (short : v * 10 ^ k < 2 ^ 52 ∨ c < 2 ^ 52) :
    c = n ∨ c = n + 1 ∧ 4 / 9 < (v - d) * 10 ^ k := by
  have unit : (0 : ℚ) < 10 ^ k := by positivity
  obtain ⟨low, high⟩ := abs_le.mp close.of_double
  have low := mul_le_mul_of_nonneg_right low unit.le
  have high := mul_le_mul_of_nonneg_right high unit.le
  rw [sub_mul, whole] at low high ⊢
  rw [neg_mul, div_mul_eq_mul_div] at low
  rw [div_mul_eq_mul_div] at high
  generalize v * 10 ^ k = y at up down short low high ⊢
  have bounded : y < 2 ^ 52 + 1 := by
    rcases short with short | short
    · linarith
    · have short : (c : ℚ) < 2 ^ 52 := by exact_mod_cast short
      linarith
  have below : (c : ℚ) < n + 2 := by linarith
  have above : (n : ℚ) < c + 1 := by linarith
  have below : c < n + 2 := by exact_mod_cast below
  have above : n < c + 1 := by exact_mod_cast above
  obtain same | next : c = n ∨ c = n + 1 := by omega
  · exact Or.inl same
  · refine Or.inr ⟨next, ?_⟩
    rw [next] at up
    push_cast at up
    linarith

/-- What is left of the digits of a number is less than a unit short of it, or two above it. -/
theorem Shortens.digits_bounds (h : Shortens v b places dropped) :
    (dropDigit^[dropped] b : ℚ) < v * 10 ^ (places - dropped) + 5 / 9 ∧
      v * 10 ^ (places - dropped) * (1 - 1 / 2 ^ 80) < dropDigit^[dropped] b + 4 / 9 := by
  obtain ⟨up, down⟩ := abs_lt_of_iterate_dropDigit dropped b
  have unit : (0 : ℚ) < 10 ^ (places - dropped) := by positivity
  rw [← cast_tenTo dropped, ← div_mul_tenTo h.enough] at up down
  constructor
  · refine up.trans_le ?_
    gcongr
    exact h.below
  · refine lt_of_le_of_lt ?_ down
    calc (v : ℚ) * 10 ^ (places - dropped) * (1 - 1 / 2 ^ 80)
        = v * (1 - 1 / 2 ^ 80) * 10 ^ (places - dropped) := by ring
      _ ≤ (b : ℚ) / 10 ^ places * 10 ^ (places - dropped) := by
        gcongr
        exact h.above

/-- What a number is written as may be one unit too large in the last place, but only where it has
nearly as many digits as a double carries and the double is above it by a good part of that unit. -/
inductive WrittenAs (v d : ℚ) : ℚ → Prop
  | same : WrittenAs v d d
  | above {k : ℕ} (low : 8 / 9 * 2 ^ 52 < d * 10 ^ k) (high : d * 10 ^ k < 2 ^ 52)
      (rest : 4 / 9 < (v - d) * 10 ^ k) : WrittenAs v d (d + 1 / 10 ^ k)

/-- When all places of a number are kept, its digits are right or one too many. -/
theorem Shortens.writtenAs_of_le (h : Shortens v b places dropped) (close : IsClose v d)
    (written : d * 10 ^ j = n) (bounded : d < 10 ^ 15) (kept : j ≤ places - dropped) :
    WrittenAs v d (dropDigit^[dropped] b / 10 ^ (places - dropped)) := by
  obtain ⟨up, down⟩ := h.digits_bounds
  have enough := h.enough
  have short := h.short
  generalize left : places - dropped = k at up down kept ⊢
  generalize dropDigit^[dropped] b = c at up down short ⊢
  have unit : (0 : ℚ) < 10 ^ k := by positivity
  have near := le_of_abs_le close.of_number
  obtain ⟨i, rfl⟩ := Nat.exists_eq_add_of_le kept
  have whole : d * 10 ^ (j + i) = (n * 10 ^ i : ℕ) := by
    rw [pow_add, ← mul_assoc, written]
    push_cast
    ring
  have point : dropped = places → d * 10 ^ (j + i) = d ∧ v * 10 ^ (j + i) = v := by
    intro all
    have none : j + i = 0 := by omega
    simp [none]
  have short' : v * 10 ^ (j + i) < 2 ^ 52 ∨ c < 2 ^ 52 := by
    refine short.imp_left fun all => ?_
    rw [(point all).2]
    linarith
  obtain same | ⟨next, rest⟩ := close.eq_or_succ whole up down short'
  · have exact : (c : ℚ) / 10 ^ (j + i) = d := by
      rw [div_eq_iff unit.ne', whole, same]
    rw [exact]
    exact .same
  · have more : (c : ℚ) / 10 ^ (j + i) = d + 1 / 10 ^ (j + i) := by
      rw [div_eq_iff unit.ne', add_mul, whole, next, one_div_mul_cancel unit.ne']
      push_cast
      rfl
    rw [more]
    refine .above ?_ ?_ rest
    · have part := mul_le_mul_of_nonneg_right near unit.le
      rw [div_mul_eq_mul_div] at part
      linarith
    · rcases short with all | short
      · rw [(point all).1]
        linarith
      · rw [whole]
        exact_mod_cast (by omega : n * 10 ^ i < 2 ^ 52)

/-- Digits with fewer places than a number has are the number when none of them were dropped. -/
theorem Shortens.eq_of_none (h : Shortens v b places 0) (near : |v * 10 ^ j - n| ≤ 1 / 8)
    (digits : n < 10 ^ 15) (lost : places < j) : (b : ℚ) / 10 ^ places * 10 ^ j = n := by
  have unit : (0 : ℚ) < 10 ^ j := by positivity
  have digits : (n : ℚ) < 10 ^ 15 := by exact_mod_cast digits
  have below := mul_le_mul_of_nonneg_right h.below unit.le
  have above := mul_le_mul_of_nonneg_right h.above unit.le
  obtain ⟨low, high⟩ := abs_le.mp near
  obtain ⟨i, rfl⟩ := Nat.exists_eq_add_of_lt lost
  have scaled : (b : ℚ) / 10 ^ places * 10 ^ (places + i + 1) = (b * 10 ^ (i + 1) : ℕ) := by
    rw [add_assoc, pow_add]
    push_cast
    field_simp
  rw [scaled] at below above ⊢
  rw [mul_right_comm] at above
  have less : ((b * 10 ^ (i + 1) : ℕ) : ℚ) < n + 1 := by linarith
  have more : (n : ℚ) < (b * 10 ^ (i + 1) : ℕ) + 1 := by linarith
  have less : b * 10 ^ (i + 1) < n + 1 := by exact_mod_cast less
  have more : n < b * 10 ^ (i + 1) + 1 := by exact_mod_cast more
  exact congrArg Nat.cast (by omega)

/-- Digits of a number that is small at some place are few where no more places are left. -/
theorem Shortens.digits_lt (h : Shortens v b places dropped) {i : ℕ} (fewer : i ≤ dropped)
    (left : places - i ≤ j) (small : v * 10 ^ j < 2 ^ 51) : dropDigit^[i] b < 2 ^ 52 := by
  obtain ⟨up, -⟩ := abs_lt_of_iterate_dropDigit i b
  have scaled : (b : ℚ) / 10 ^ i ≤ v * 10 ^ j := by
    rw [← cast_tenTo, ← div_mul_tenTo (fewer.trans h.enough)]
    calc (b : ℚ) / 10 ^ places * 10 ^ (places - i) ≤ b / 10 ^ places * 10 ^ j := by
          gcongr
          norm_num
      _ ≤ v * 10 ^ j := by
          gcongr
          exact h.below
  have less : (dropDigit^[i] b : ℚ) < (2 ^ 52 : ℕ) := by
    push_cast
    linarith
  exact_mod_cast less

/-- When places of a number had to go, there was nothing in them: it has too few digits for a place
to be dropped. -/
theorem Shortens.eq_of_lt (h : Shortens v b places dropped) (close : IsClose v d)
    (written : d * 10 ^ j = n) (digits : n < 10 ^ 15) (few : j ≤ 20)
    (lost : places - dropped < j) : dropDigit^[dropped] b / 10 ^ (places - dropped) = d := by
  have unit : (0 : ℚ) < 10 ^ j := by positivity
  have bounded : (n : ℚ) < 10 ^ 15 := by exact_mod_cast digits
  have near : |v * 10 ^ j - n| ≤ 1 / 8 := by
    have part := mul_le_mul_of_nonneg_right close.of_number unit.le
    rw [div_mul_eq_mul_div, written] at part
    rw [← written, ← sub_mul, abs_mul, abs_of_pos unit]
    linarith
  obtain none | full | long := h.needed
  · subst none
    exact mul_right_cancel₀ unit.ne' ((h.eq_of_none near digits lost).trans written.symm)
  · rw [maxScale] at full
    omega
  · -- The digit before the last one would not have had to go.
    have small : v * 10 ^ j < 2 ^ 51 := by linarith [le_of_abs_le near]
    have short := h.digits_lt (Nat.sub_le dropped 1) (by omega) small
    exact absurd long (not_le.mpr short)

/-- A number of no more than fifteen digits is written as it is, or one unit above. -/
theorem Shortens.writtenAs (h : Shortens v b places dropped) (close : IsClose v d)
    (written : d * 10 ^ j = n) (digits : n < 10 ^ 15) (few : j ≤ 20) (bounded : d < 10 ^ 15) :
    WrittenAs v d (dropDigit^[dropped] b / 10 ^ (places - dropped)) := by
  rcases Nat.lt_or_ge (places - dropped) j with lost | kept
  · rw [h.eq_of_lt close written digits few lost]
    exact .same
  · exact h.writtenAs_of_le close written bounded kept

end Digits

end Decimal

end RebateRelay.Number
