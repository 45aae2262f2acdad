import RebateRelay.Proofs.Number.Double

/-!
# The double nearest to a number

A number of ordinary size has a normal double as the nearest one, and the two differ by no more than
half a unit in the last of fifty-three bits. It is enough to look at the double above and the double
below: both exist, and the nearest double is not farther away. Conversely, a double is the nearest
one to what is within half a unit in its last place.
-/

namespace RebateRelay.Number

open Float.Model.UnpackedFloat (unpackExponent)

namespace Binary64

/-- The number that the parts of a double stand for. -/
def value (x : Binary64) : ℚ := (if x.negative then -1 else 1) * (x.significand * 2 ^ x.exponent)

theorem value_of_positive {x : Binary64} (positive : x.negative = false) :
    x.value = x.significand * 2 ^ x.exponent := by
  rw [value, if_neg (Bool.eq_false_iff.mp positive), one_mul]

/-- The parts of a normal double. -/
structure IsNormal (m : ℕ) (e : ℤ) : Prop where
  low : 2 ^ 52 ≤ m
  high : m < 2 ^ 53
  least : minExponent ≤ e
  greatest : e ≤ 971

/-- The powers of two are normal. -/
theorem isNormal_leading {e : ℤ} (least : minExponent ≤ e) (greatest : e ≤ 971) :
    IsNormal (2 ^ 52) e := ⟨le_rfl, by norm_num, least, greatest⟩

/-- What has fifty-three bits and no larger exponent is below a power of two. -/
theorem mul_zpow_lt {m : ℕ} {e f : ℤ} (bits : m < 2 ^ 53) (le : e ≤ f) :
    (m * 2 ^ e : ℚ) < 2 ^ 53 * 2 ^ f := by
  have bits : (m : ℚ) < 2 ^ 53 := by exact_mod_cast bits
  calc (m * 2 ^ e : ℚ) < 2 ^ 53 * 2 ^ e := by gcongr
    _ ≤ 2 ^ 53 * 2 ^ f := by
      gcongr
      norm_num

/-- What has its leading bit set and no smaller exponent is not below a power of two. -/
theorem le_mul_zpow {m : ℕ} {e f : ℤ} (leading : 2 ^ 52 ≤ m) (le : f ≤ e) :
    (2 ^ 52 * 2 ^ f : ℚ) ≤ m * 2 ^ e := by
  have leading : (2 : ℚ) ^ 52 ≤ m := by exact_mod_cast leading
  calc (2 ^ 52 * 2 ^ f : ℚ) ≤ 2 ^ 52 * 2 ^ e := by
        gcongr
        norm_num
    _ ≤ m * 2 ^ e := by gcongr

/-- The significand has fifty-three bits, and the exponent is the least one if the leading bit is
not set. -/
theorem bounds_of_ofFloat? {x : Float} {parts : Binary64} (taken : ofFloat? x = some parts) :
    parts.significand < 2 ^ 53 ∧ minExponent ≤ parts.exponent ∧
      (2 ^ 52 ≤ parts.significand ∨ parts.exponent = minExponent) := by
  have fraction := Nat.mod_lt x.toBits.toNat (twoTo_pos 52)
  have bits : twoTo 52 = 2 ^ 52 := rfl
  unfold ofFloat? at taken
  simp only at taken
  split_ifs at taken with special subnormal
  · cases taken
    refine ⟨?_, le_rfl, Or.inr rfl⟩
    dsimp only
    omega
  · cases taken
    dsimp only
    unfold minExponent
    omega

/-- Bits are those of a double unless they are kept for what is not finite. -/
theorem exists_toBits_eq {n : ℕ} (bits : n < 2 ^ 64) (finite : n / 2 ^ 52 % 2 ^ 11 ≠ 2047) :
    ∃ x : Float, x.toBits.toNat = n := by
  have word : (UInt64.ofNat n).toNat = n := by
    rw [UInt64.toNat_ofNat', Nat.mod_eq_of_lt bits]
  have valid : Float.Model.Format.binary64.Valid (UInt64.ofNat n).toBitVec := by
    refine ⟨fun special => absurd ?_ finite⟩
    have field := congrArg BitVec.toNat special
    unfold unpackExponent at field
    rw [BitVec.toNat_cast, BitVec.extractLsb_toNat, Nat.shiftRight_eq_div_pow,
      UInt64.toNat_toBitVec, word] at field
    exact field
  exact ⟨.ofModel ⟨_, valid⟩, word⟩

/-- There is a normal double with given parts and no sign. -/
theorem exists_of_isNormal {m : ℕ} {e : ℤ} (h : IsNormal m e) :
    ∃ x, ofFloat? x = some ⟨false, m, e⟩ := by
  obtain ⟨low, high, least, greatest⟩ := h
  unfold minExponent at least
  obtain ⟨field, shifted⟩ := Int.eq_ofNat_of_zero_le (show 0 ≤ e + 1075 by omega)
  obtain ⟨fraction, rfl⟩ := Nat.exists_eq_add_of_le low
  have exponent : (field * 2 ^ 52 + fraction) / 2 ^ 52 % 2 ^ 11 = field := by omega
  have rest : (field * 2 ^ 52 + fraction) % 2 ^ 52 = fraction := by omega
  have positive : ¬2 ^ 63 ≤ field * 2 ^ 52 + fraction := by omega
  obtain ⟨x, word⟩ := exists_toBits_eq (n := field * 2 ^ 52 + fraction) (by omega) (by omega)
  refine ⟨x, ?_⟩
  unfold ofFloat?
  simp only [word, twoTo, Nat.pow_eq, exponent, rest, decide_eq_false positive]
  rw [if_neg (by omega), if_neg (by omega)]
  simp only [Option.some.injEq, mk.injEq, true_and]
  omega

/-- No double is nearer to a number. -/
def IsNearest (x : Binary64) (d : ℚ) : Prop :=
  ∀ y parts, ofFloat? y = some parts → |x.value - d| ≤ |parts.value - d|

namespace IsNearest

variable {x : Binary64} {d : ℚ} {m : ℕ} {e : ℤ}

theorem abs_sub_le (h : x.IsNearest d) (normal : IsNormal m e) :
    |x.value - d| ≤ |m * 2 ^ e - d| := by
  obtain ⟨y, taken⟩ := exists_of_isNormal normal
  have nearer := h y _ taken
  rwa [value_of_positive (x := ⟨false, m, e⟩) rfl] at nearer

/-- A double that is no larger than the number is no larger than the nearest one. -/
theorem le_value (h : x.IsNearest d) (normal : IsNormal m e) (below : (m * 2 ^ e : ℚ) ≤ d) :
    (m * 2 ^ e : ℚ) ≤ x.value := by
  by_contra farther
  have nearer := h.abs_sub_le normal
  rw [abs_of_nonpos (by linarith), abs_of_nonpos (by linarith)] at nearer
  linarith

theorem value_le (h : x.IsNearest d) (normal : IsNormal m e) (above : d ≤ m * 2 ^ e) :
    x.value ≤ m * 2 ^ e := by
  by_contra farther
  have nearer := h.abs_sub_le normal
  rw [abs_of_nonneg (by linarith), abs_of_nonneg (by linarith)] at nearer
  linarith

end IsNearest

/-- The parts of a double of ordinary size. -/
structure IsOrdinary (x : Binary64) : Prop where
  positive : x.negative = false
  normal : IsNormal x.significand x.exponent
  least : -72 ≤ x.exponent
  greatest : x.exponent ≤ -2

/-- The double nearest to a number of ordinary size is of ordinary size. -/
theorem IsNearest.isOrdinary {v : Float} {x : Binary64} {d : ℚ} (h : x.IsNearest d)
    (taken : ofFloat? v = some x) (low : 1 / 2 ^ 20 ≤ d) (high : d ≤ 2 ^ 50) : x.IsOrdinary := by
  obtain ⟨bits, least, leading⟩ := bounds_of_ofFloat? taken
  have above : 1 / 2 ^ 20 ≤ x.value := by
    have bound := h.le_value (isNormal_leading (e := -72) (by decide) (by decide))
      (by norm_num at low ⊢; exact low)
    norm_num at bound ⊢
    exact bound
  have below : x.value ≤ 2 ^ 50 := by
    have bound := h.value_le (isNormal_leading (e := -2) (by decide) (by decide))
      (by norm_num at high ⊢; exact high)
    norm_num at bound ⊢
    exact bound
  have unit : (0 : ℚ) < 2 ^ x.exponent := by positivity
  have positive : x.negative = false := by
    by_contra negative
    have nonneg : (0 : ℚ) ≤ x.significand * 2 ^ x.exponent := by positivity
    rw [value, if_pos (Bool.eq_true_of_not_eq_false negative)] at above
    norm_num at above
    linarith
  rw [value_of_positive positive] at above below
  have least' : -72 ≤ x.exponent := by
    by_contra less
    have less := mul_zpow_lt bits (show x.exponent ≤ -73 by omega)
    norm_num at less above
    linarith
  have leading : 2 ^ 52 ≤ x.significand := leading.resolve_right fun subnormal => by
    rw [subnormal, minExponent] at least'
    omega
  have greatest : x.exponent ≤ -2 := by
    by_contra more
    have more := le_mul_zpow leading (show -1 ≤ x.exponent by omega)
    norm_num at more below
    linarith
  exact ⟨positive, ⟨leading, bits, least, by omega⟩, least', greatest⟩

section Neighbours

variable {x : Binary64} {d : ℚ}

/-- The next double above is not nearer. -/
theorem IsNearest.abs_sub_le_above (h : x.IsNearest d) (ordinary : x.IsOrdinary) :
    |x.value - d| ≤ |x.value + 2 ^ x.exponent - d| := by
  obtain ⟨positive, ⟨low, high, least, -⟩, -, greatest⟩ := ordinary
  obtain more | last : x.significand + 1 < 2 ^ 53 ∨ x.significand + 1 = 2 ^ 53 := by omega
  · have nearer := h.abs_sub_le (m := x.significand + 1) (e := x.exponent)
      ⟨by omega, more, least, by omega⟩
    convert nearer using 3
    rw [value_of_positive positive]
    push_cast
    ring
  · have nearer := h.abs_sub_le (isNormal_leading (e := x.exponent + 1) (by omega) (by omega))
    convert nearer using 3
    have last : (x.significand : ℚ) + 1 = 2 ^ 53 := by exact_mod_cast last
    rw [value_of_positive positive, zpow_add_one₀ (by norm_num)]
    calc (x.significand : ℚ) * 2 ^ x.exponent + 2 ^ x.exponent
        = (x.significand + 1) * 2 ^ x.exponent := by ring
      _ = (2 ^ 52 : ℕ) * (2 ^ x.exponent * 2) := by rw [last]; push_cast; ring

/-- The next double below is not nearer. Its distance is half as much at a power of two. -/
theorem IsNearest.abs_sub_le_below (h : x.IsNearest d) (ordinary : x.IsOrdinary) :
    ∃ u : ℚ, 0 < u ∧ 2 ^ 52 * u ≤ x.value - u ∧ |x.value - d| ≤ |x.value - u - d| := by
  obtain ⟨positive, ⟨low, high, -, -⟩, least, greatest⟩ := ordinary
  have unit : (0 : ℚ) < 2 ^ x.exponent := by positivity
  obtain first | ⟨m, less⟩ : x.significand = 2 ^ 52 ∨ ∃ m, x.significand = 2 ^ 52 + m + 1 := by
    rcases Nat.lt_or_ge (2 ^ 52) x.significand with more | first
    · exact Or.inr (Nat.exists_eq_add_of_lt more)
    · exact Or.inl (le_antisymm first low)
  · refine ⟨2 ^ (x.exponent - 1), by positivity, ?_, ?_⟩
    · rw [value_of_positive positive, first, zpow_sub_one₀ (by norm_num)]
      push_cast
      linarith
    · have nearer := h.abs_sub_le (m := 2 ^ 53 - 1) (e := x.exponent - 1)
        ⟨by norm_num, by norm_num, by unfold minExponent; omega, by omega⟩
      convert nearer using 3
      rw [value_of_positive positive, first, zpow_sub_one₀ (by norm_num)]
      push_cast
      ring
  · refine ⟨2 ^ x.exponent, unit, ?_, ?_⟩
    · rw [value_of_positive positive, less]
      push_cast
      have rest : (0 : ℚ) ≤ m * 2 ^ x.exponent := by positivity
      linarith
    · have nearer := h.abs_sub_le (m := 2 ^ 52 + m) (e := x.exponent)
        ⟨by omega, by omega, by unfold minExponent; omega, by omega⟩
      convert nearer using 3
      rw [value_of_positive positive, less]
      push_cast
      ring

/-- A double and the number that it is nearest to differ by no more than half a unit in the last
place, as a part of either of them. -/
theorem IsNearest.abs_value_sub_le (h : x.IsNearest d) (ordinary : x.IsOrdinary) :
    |x.value - d| ≤ d / 2 ^ 53 ∧ |x.value - d| ≤ x.value / 2 ^ 53 := by
  have unit : (0 : ℚ) < 2 ^ x.exponent := by positivity
  rcases le_or_gt x.value d with below | above
  · have nearer := h.abs_sub_le_above ordinary
    have digits : 2 ^ 52 * 2 ^ x.exponent ≤ x.value := by
      rw [value_of_positive ordinary.positive]
      exact le_mul_zpow ordinary.normal.low le_rfl
    rw [abs_of_nonpos (by linarith)] at nearer ⊢
    have half : d - x.value ≤ 2 ^ x.exponent / 2 := by
      rcases abs_cases (x.value + 2 ^ x.exponent - d) with ⟨same, -⟩ | ⟨same, -⟩ <;> linarith
    constructor <;> linarith
  · obtain ⟨u, positive, digits, nearer⟩ := h.abs_sub_le_below ordinary
    rw [abs_of_pos (by linarith)] at nearer ⊢
    have half : x.value - d ≤ u / 2 := by
      rcases abs_cases (x.value - u - d) with ⟨same, -⟩ | ⟨same, -⟩ <;> linarith
    constructor <;> linarith

/-- Other doubles are a unit in the last place away, unless this one is a power of two. -/
theorem two_zpow_le_abs_sub {y : Float} {parts : Binary64} (positive : x.negative = false)
    (leading : 2 ^ 52 < x.significand) (taken : ofFloat? y = some parts)
    (other : parts.value ≠ x.value) : (2 : ℚ) ^ x.exponent ≤ |parts.value - x.value| := by
  obtain ⟨bits, -, -⟩ := bounds_of_ofFloat? taken
  have unit : (0 : ℚ) < 2 ^ x.exponent := by positivity
  rw [value_of_positive positive] at other ⊢
  rcases le_or_gt x.exponent parts.exponent with coarser | finer
  · -- Both are whole numbers of units.
    obtain ⟨i, shifted⟩ := Int.eq_ofNat_of_zero_le (sub_nonneg.mpr coarser)
    obtain ⟨k, whole⟩ : ∃ k : ℤ, parts.value = k * 2 ^ x.exponent := by
      refine ⟨(if parts.negative then -1 else 1) * (parts.significand * 2 ^ i), ?_⟩
      rw [value, show parts.exponent = i + x.exponent by omega, zpow_add₀ (by norm_num),
        zpow_natCast]
      push_cast
      ring
    rw [whole] at other ⊢
    have apart : k - x.significand ≠ 0 := by
      intro same
      apply other
      rw [sub_eq_zero.mp same, Int.cast_natCast]
    have apart : (1 : ℚ) ≤ |(k : ℚ) - x.significand| := by exact_mod_cast Int.one_le_abs apart
    rw [← sub_mul, abs_mul, abs_of_pos unit]
    exact le_mul_of_one_le_left unit.le apart
  · -- The other one is smaller than all with this exponent.
    have small : parts.value ≤ 2 ^ 52 * 2 ^ x.exponent := by
      have magnitude := (mul_zpow_lt bits (show parts.exponent ≤ x.exponent - 1 by omega)).le
      rw [zpow_sub_one₀ (by norm_num)] at magnitude
      have nonneg : (0 : ℚ) ≤ parts.significand * 2 ^ parts.exponent := by positivity
      rw [value]
      split_ifs <;> linarith
    have leading : (2 : ℚ) ^ 52 + 1 ≤ x.significand := by exact_mod_cast leading
    have large : (2 ^ 52 + 1) * (2 : ℚ) ^ x.exponent ≤ x.significand * 2 ^ x.exponent := by gcongr
    rw [abs_sub_comm]
    refine le_trans ?_ (le_abs_self _)
    linarith

/-- A double is the nearest one to what is within half a unit in its last place. -/
theorem isNearest_of_abs_sub_le (positive : x.negative = false) (leading : 2 ^ 52 < x.significand)
    (half : |x.value - d| ≤ 2 ^ x.exponent / 2) : x.IsNearest d := by
  intro y parts taken
  by_cases same : parts.value = x.value
  · rw [same]
  · have apart := two_zpow_le_abs_sub positive leading taken same
    have through := abs_sub_le parts.value d x.value
    rw [abs_sub_comm d] at through
    linarith

end Neighbours

end Binary64

/-- A double is the nearest one to a number. -/
def IsNearestDouble (v : Float) (d : ℚ) : Prop :=
  ∃ x, Binary64.ofFloat? v = some x ∧ x.IsNearest d

end RebateRelay.Number
