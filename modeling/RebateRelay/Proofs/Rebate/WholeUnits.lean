import RebateRelay.Proofs.Rebate.Accuracy

/-!
# The amount in whole units

Once the rebate in dollars stands, the amount follows from it and from the price alone. The number
of tokens is rounded at a place that is no coarser than a smallest unit, since the units that it
makes are in range; and so the whole units are those of the exact quotient, or one more. The rebate
itself is exact for a value of ordinary size. Two of the steps cannot run out of range: a rate
always is a part of one, and whole units in range are far below the bound on amounts.
-/

namespace RebateRelay

namespace Number.Decimal

/-! ## Whole parts of rounded numbers -/

theorem floor_magnitude (x : Decimal) : ⌊x.magnitude⌋ = x.integerPart := by
  rw [Int.floor_eq_iff]
  exact ⟨by exact_mod_cast x.integerPart_le, by exact_mod_cast x.lt_integerPart_add_one⟩

/-- Rounding at a place behind the point leaves the whole part, or takes it one up. -/
theorem floor_bounds_of_abs_le {m k : ℕ} {x : ℚ} (near : |(m : ℚ) - x * 10 ^ k| ≤ 1 / 2) :
    ⌊x⌋ ≤ ⌊(m : ℚ) / 10 ^ k⌋ ∧ ⌊(m : ℚ) / 10 ^ k⌋ ≤ ⌊x⌋ + 1 := by
  have unit : (1 : ℚ) ≤ 10 ^ k := one_le_pow₀ (by norm_num)
  have positive : (0 : ℚ) < 10 ^ k := by positivity
  obtain ⟨low, high⟩ := abs_le.mp near
  constructor
  · apply Int.le_floor.mpr
    rw [le_div_iff₀ positive]
    have whole : (⌊x⌋ : ℚ) * 10 ^ k < m + 1 := by
      have below : (⌊x⌋ : ℚ) * 10 ^ k ≤ x * 10 ^ k := by
        gcongr
        exact Int.floor_le x
      linarith
    -- Both sides are whole numbers.
    have whole : ⌊x⌋ * 10 ^ k < (m : ℤ) + 1 := by exact_mod_cast whole
    exact_mod_cast Int.lt_add_one_iff.mp whole
  · apply sub_le_iff_le_add.mp
    apply Int.le_floor.mpr
    have cut : (⌊(m : ℚ) / 10 ^ k⌋ : ℚ) * 10 ^ k ≤ m :=
      (le_div_iff₀ positive).mp (Int.floor_le _)
    push_cast
    refine le_of_mul_le_mul_right ?_ positive
    linarith

/-- When the units that a rounded number makes are in range, their whole part is that of the exact
number of units, or one more. -/
theorem IsRounded.floor_bounds {w : Decimal} {v : ℚ} {k : ℕ} (rounded : w.IsRounded v)
    (few : k ≤ maxScale) (room : w.magnitude * 10 ^ k < 2 ^ 96) :
    ⌊v * 10 ^ k⌋ ≤ ⌊w.magnitude * 10 ^ k⌋ ∧ ⌊w.magnitude * 10 ^ k⌋ ≤ ⌊v * 10 ^ k⌋ + 1 := by
  obtain same | ⟨near, last⟩ := rounded.last_place
  · rw [same]
    exact ⟨le_rfl, Int.le_add_one le_rfl⟩
  have fine : k ≤ w.scale := by
    obtain all | full := last
    · rw [all]
      exact few
    -- The digits fill the mantissa, so that fewer places would take the units out of range.
    have positive : (0 : ℚ) < 10 ^ w.scale := by positivity
    rw [magnitude, div_mul_eq_mul_div, div_lt_iff₀ positive] at room
    have room : w.mantissa * tenTo k < mantissaBound * tenTo w.scale := by
      unfold mantissaBound tenTo twoTo
      exact_mod_cast room
    have room : w.mantissa * tenTo k < w.mantissa * tenTo (w.scale + 1) := by
      calc w.mantissa * tenTo k < mantissaBound * tenTo w.scale := room
        _ ≤ 10 * w.mantissa * tenTo w.scale := Nat.mul_le_mul_right _ full
        _ = w.mantissa * tenTo (w.scale + 1) := by rw [tenTo_succ]; ring
    have powers := Nat.lt_of_mul_lt_mul_left room
    exact Nat.lt_succ_iff.mp (lt_of_not_ge fun le => powers.not_ge (tenTo_le_tenTo.mpr le))
  obtain ⟨j, places⟩ := Nat.exists_eq_add_of_le fine
  have units : w.magnitude * 10 ^ k = (w.mantissa : ℚ) / 10 ^ j := by
    rw [magnitude, places, pow_add]
    field_simp
  rw [units]
  apply floor_bounds_of_abs_le
  rwa [mul_assoc, ← pow_add, ← places]

/-! ## Values of ordinary size -/

section Ordinary

variable {x : Float} {d : Decimal}

/-- The decimal of a double has a mantissa below the bound of machine words if the number is. -/
theorem mantissa_lt_of_ofFloat? (converted : ofFloat? x = some d) (short : d.magnitude < 2 ^ 64) :
    d.mantissa < twoTo 64 := by
  obtain none | ⟨few, -⟩ := places_of_ofFloat? converted
  · rw [magnitude, none, pow_zero, div_one] at short
    unfold twoTo
    exact_mod_cast short
  · exact few.trans (by decide)

/-- The decimal of a double has no more places than its number. -/
theorem scale_le_of_ofFloat? {k n : ℕ} (converted : ofFloat? x = some d)
    (whole : d.magnitude * 10 ^ k = n) : d.scale ≤ k := by
  obtain none | ⟨-, digit⟩ := places_of_ofFloat? converted
  · rw [none]
    exact Nat.zero_le k
  · by_contra more
    obtain ⟨j, places⟩ := Nat.exists_eq_add_of_lt (not_le.mp more)
    have shown : (d.mantissa : ℚ) = n * 10 ^ (j + 1) := by
      rw [← whole, magnitude, places, add_assoc, pow_add]
      field_simp
    have shown : d.mantissa = n * tenTo j * 10 := by
      rw [mul_assoc, ← tenTo_succ]
      unfold tenTo
      exact_mod_cast shown
    apply digit
    rw [shown, Nat.mul_mod_left]

end Ordinary

end Number.Decimal

namespace Payout

open Number Number.Decimal

/-! ## The rate -/

/-- A rate is a part of one with four places at most. -/
theorem exists_rate (bps : UInt32) :
    ∃ rate, rate? bps = some rate ∧ rate.negative = false ∧ rate.scale ≤ 4 := by
  refine ⟨_, div?_tenTo (k := 4) bps.toNat_lt (by decide), ?_⟩
  split_ifs with whole
  · exact ⟨rfl, Nat.zero_le 4⟩
  · exact ⟨rfl, dropQuotientZeros_snd_le bps.toNat⟩

namespace Stages.Lead

variable {record : Record} {rates : RateTable} {payout : Payout} {s : Stages}

theorem rate_spec (h : s.Lead record rates payout) :
    s.rate.negative = false ∧ s.rate.scale ≤ 4 := by
  obtain ⟨rate, found, sign, places⟩ := exists_rate payout.rebateBps
  obtain rfl : rate = s.rate := Option.some.inj (found.symm.trans h.rate)
  exact ⟨sign, places⟩

/-- The mantissa of a rate is no larger than the number of basis points. -/
theorem mantissa_rate_lt (h : s.Lead record rates payout) : s.rate.mantissa < twoTo 32 := by
  have exact := h.magnitude_rate
  have places : (10 : ℚ) ^ s.rate.scale ≤ 10 ^ 4 :=
    pow_le_pow_right₀ (by norm_num) h.rate_spec.2
  rw [magnitude, div_eq_iff (by positivity)] at exact
  have bounded : (s.rate.mantissa : ℚ) ≤ payout.rebateBps.toNat := by
    calc (s.rate.mantissa : ℚ)
        = payout.rebateBps.toNat / 10000 * 10 ^ s.rate.scale := exact
      _ ≤ payout.rebateBps.toNat / 10000 * 10 ^ 4 := by gcongr
      _ = payout.rebateBps.toNat := by ring
  have bounded : s.rate.mantissa ≤ payout.rebateBps.toNat := by exact_mod_cast bounded
  exact bounded.trans_lt payout.rebateBps.toNat_lt

/-! ## Signs -/

theorem rebateUsd_not_negative (h : s.Lead record rates payout) :
    payout.rebateUsd.negative = false :=
  not_negative_of_mul? h.rebateUsd h.owed h.rate_spec.1

theorem tokens_not_negative (h : s.Lead record rates payout) : s.tokens.negative = false :=
  not_negative_of_div? h.tokens h.rebateUsd_not_negative (not_negative_of_pos h.price_pos)

theorem units_not_negative (h : s.Lead record rates payout) : s.units.negative = false :=
  not_negative_of_mul? h.units h.tokens_not_negative rfl

/-! ## The amount against the rebate -/

theorem amount_lt (h : s.Lead record rates payout) : payout.amount < mantissaBound := by
  rw [h.amount]
  exact s.units.integerPart_le_mantissa.trans_lt (isNear_mul? h.units).valid.1

/-- The step to smallest units is exact, signs included. -/
theorem value_units (h : s.Lead record rates payout) :
    s.units.value = s.tokens.value * 10 ^ 18 := by
  rw [value_of_not_negative h.units_not_negative, value_of_not_negative h.tokens_not_negative,
    h.magnitude_units]

/-- The amount is the whole part of the rebate over the price in smallest units, or one more. -/
theorem floor_bounds (h : s.Lead record rates payout) :
    ⌊payout.rebateUsd.value * 10 ^ 18 / s.price.value⌋ ≤ payout.amount ∧
      payout.amount ≤ ⌊payout.rebateUsd.value * 10 ^ 18 / s.price.value⌋ + 1 := by
  obtain ⟨w, rounded, trims⟩ := exists_isRounded_div? h.isNear_rebateUsd.valid h.tokens
  have same : w.magnitude = s.tokens.magnitude := (trims.magnitude w.negative).symm
  have units : s.units.magnitude = w.magnitude * 10 ^ 18 := by rw [h.magnitude_units, same]
  have room : w.magnitude * 10 ^ 18 < 2 ^ 96 := by
    rw [← units]
    have inside : (s.units.mantissa : ℚ) < 2 ^ 96 := by
      exact_mod_cast (isNear_mul? h.units).valid.1
    exact (div_le_self (Nat.cast_nonneg _) (one_le_pow₀ (by norm_num))).trans_lt inside
  have bounds := rounded.floor_bounds (by decide : 18 ≤ maxScale) room
  rw [← units, floor_magnitude, ← h.amount, h.price_eq_magnitude, div_mul_eq_mul_div] at bounds
  rwa [value_of_not_negative h.rebateUsd_not_negative]

/-- The rebate is exact for a value below the bound of machine words with no more than twenty-four
places. -/
theorem value_rebateUsd (h : s.Lead record rates payout) {n : ℕ}
    (short : s.amountUsd.value < 2 ^ 64) (whole : s.amountUsd.value * 10 ^ 24 = n) :
    payout.rebateUsd.value = s.amountUsd.value * payout.rebateBps.toNat / 10000 := by
  have converted := decimal_eq_ok.mp h.amountUsd
  rw [value_of_not_negative h.owed] at short whole ⊢
  have digits : s.amountUsd.mantissa * s.rate.mantissa < twoTo 64 * twoTo 32 :=
    Nat.mul_lt_mul'' (mantissa_lt_of_ofFloat? converted short) h.mantissa_rate_lt
  have places : s.amountUsd.scale + s.rate.scale ≤ maxScale :=
    Nat.add_le_add (scale_le_of_ofFloat? converted whole) h.rate_spec.2
  rw [value_of_not_negative h.rebateUsd_not_negative,
    magnitude_mul?_of_inside h.rebateUsd digits places, h.magnitude_rate, mul_div_assoc]

end Stages.Lead

/-! ## Where a payout can fail -/

theorem step_eq_error {α : Type} {name : String} {x : Option α} {e : RebateError} :
    step name x = .error e ↔ x = none ∧ e = .outOfRange (name ++ " out of range") := by
  cases x <;> simp [step, eq_comm]

theorem decimal_eq_error {name : String} {value : Float} {e : RebateError} :
    decimal name value = .error e ↔ ofFloat? value = none ∧
      e = .outOfRange (name ++ " " ++ plain value ++ " is not representable") := by
  unfold decimal
  cases ofFloat? value <;> simp [eq_comm]

/-- Whole units in range are an amount in range: they are no more than their mantissa, which has
fewer bits. -/
theorem integerPart_lt_of_mul? {tokens units : Decimal}
    (scaled : tokens.mul? unitsPerToken = some units) : units.integerPart < amountBound :=
  (units.integerPart_le_mantissa.trans_lt (isNear_mul? scaled).valid.1).trans (by decide)

/-- The three steps that can run out of range. -/
def limitedSteps : List String := ["rebate usd", "token amount", "smallest unit"]

theorem exists_step_of_convert {bps : UInt32} {amountUsd price : Decimal} {e : RebateError}
    (failed : convert bps amountUsd price = .error e) :
    ∃ name ∈ limitedSteps, e = .outOfRange (name ++ " out of range") := by
  simp only [convert, bind_eq_error, step_eq_error, step_eq_ok] at failed
  obtain ⟨none, -⟩ | ⟨rate, -, ⟨-, rfl⟩ | ⟨rebate, -, ⟨-, rfl⟩ | ⟨tokens, -, ⟨-, rfl⟩ |
    ⟨units, scaled, ⟨large, -⟩ | ⟨amount, -, shown⟩⟩⟩⟩⟩ := failed
  · obtain ⟨rate, found, -⟩ := exists_rate bps
    rw [found] at none
    cases none
  · exact ⟨"rebate usd", by decide, rfl⟩
  · exact ⟨"token amount", by decide, rfl⟩
  · exact ⟨"smallest unit", by decide, rfl⟩
  · rw [if_pos (integerPart_lt_of_mul? scaled)] at large
    cases large
  · cases shown

/-- What a payout reports as out of range is an input that has no decimal or is below zero, or one
of the three steps. -/
theorem cases_of_outOfRange {record : Record} {rates : RateTable} {what : String}
    (failed : calculate record rates = .error (.outOfRange what)) :
    what = "amount_usd" ++ " " ++ plain record.amountUsd ++ " is not representable" ∨
      what = "arb_price" ++ " " ++ plain record.arbPrice ++ " is not representable" ∨
      what = "negative amount_usd " ++ plain record.amountUsd ∨
      ∃ name ∈ limitedSteps, what = name ++ " out of range" := by
  simp only [calculate, bind_eq_error, check_eq_error] at failed
  obtain unknown | ⟨direction, -, missing | ⟨bps, -, ⟨-, price⟩ | ⟨-, failed⟩⟩⟩ := failed
  · unfold Direction.parse at unknown
    split at unknown <;> cases unknown
  · unfold RateTable.rebateBps at missing
    split at missing
    · cases missing
    · split at missing <;> cases missing
  · cases price
  obtain failed | ⟨amountUsd, -, ⟨-, negative⟩ | ⟨-, failed | ⟨price, -, failed | ⟨_, -, shown⟩⟩⟩⟩ :=
    failed
  · exact Or.inl (RebateError.outOfRange.inj (decimal_eq_error.mp failed).2)
  · exact Or.inr (Or.inr (Or.inl (RebateError.outOfRange.inj negative).symm))
  · exact Or.inr (Or.inl (RebateError.outOfRange.inj (decimal_eq_error.mp failed).2))
  · obtain ⟨name, limited, same⟩ := exists_step_of_convert failed
    exact Or.inr (Or.inr (Or.inr ⟨name, limited, RebateError.outOfRange.inj same⟩))
  · cases shown

/-- Another step is never reported. -/
theorem calculate_ne_of_step {record : Record} {rates : RateTable} {name : String}
    (unlimited : name ∈ ["rebate rate", "u128 conversion"]) :
    calculate record rates ≠ .error (.outOfRange (name ++ " out of range")) := by
  intro failed
  have texts := cases_of_outOfRange failed
  simp only [← String.toList_inj, String.toList_append] at texts
  simp only [List.mem_cons, List.not_mem_nil, or_false] at unlimited
  obtain rfl | rfl := unlimited
  · simp [limitedSteps] at texts
  · simp [limitedSteps] at texts

/-- The amount is the whole part of the rebate over the price, in smallest units, or one more; the
step to smallest units loses nothing, and the rebate is exact for a value of ordinary size. Neither
the rate nor the last conversion is ever out of range. -/
theorem amount_within_one_unit (record : Record) (rates : RateTable) :
    (∀ payout, calculate record rates = .ok payout →
      ∃ amountUsd price tokens units,
        decimal "amount_usd" record.amountUsd = .ok amountUsd ∧
        decimal "arb_price" record.arbPrice = .ok price ∧
        rates.rebateBps payout.chainId record.module record.token = .ok payout.rebateBps ∧
        payout.rebateUsd.div? price = some tokens ∧
        tokens.mul? unitsPerToken = some units ∧
        units.value = tokens.value * 10 ^ 18 ∧
        payout.amount = units.integerPart ∧
        let exact := payout.rebateUsd.value * 10 ^ 18 / price.value
        ⌊exact⌋ ≤ payout.amount ∧ payout.amount ≤ ⌊exact⌋ + 1 ∧
        payout.amount < 2 ^ 96 ∧
        (amountUsd.value < 2 ^ 64 → (∃ n : ℕ, amountUsd.value * 10 ^ 24 = n) →
          payout.rebateUsd.value = amountUsd.value * payout.rebateBps.toNat / 10000)) ∧
    calculate record rates ≠ .error (.outOfRange "rebate rate out of range") ∧
    calculate record rates ≠ .error (.outOfRange "u128 conversion out of range") := by
  refine ⟨?result, ?rate, ?conversion⟩
  case result =>
    intro payout calculated
    obtain ⟨s, h⟩ := exists_stages calculated
    obtain ⟨low, high⟩ := h.floor_bounds
    refine ⟨s.amountUsd, s.price, s.tokens, s.units, h.amountUsd, h.price, h.looked, h.tokens,
      h.units, h.value_units, h.amount, low, high, h.amount_lt, ?_⟩
    intro short whole
    obtain ⟨n, whole⟩ := whole
    exact h.value_rebateUsd short whole
  case rate => exact @calculate_ne_of_step record rates "rebate rate" (by decide)
  case conversion => exact @calculate_ne_of_step record rates "u128 conversion" (by decide)

theorem amount_within_one_unit_of_sample :
    ∃ payout price, calculate sampleRecord sampleRates = .ok payout ∧
      decimal "arb_price" sampleRecord.arbPrice = .ok price ∧
      ⌊payout.rebateUsd.value * 10 ^ 18 / price.value⌋ ≤ payout.amount ∧
      payout.amount ≤ ⌊payout.rebateUsd.value * 10 ^ 18 / price.value⌋ + 1 ∧
      payout.rebateUsd.value = 5863.02 * 500 / 10000 := by
  obtain ⟨amountUsd, price, tokens, units, converted, priced, -, -, -, -, -, low, high, -, exact⟩ :=
    (amount_within_one_unit sampleRecord sampleRates).1 _ calculate_sample
  have shown : decimal "amount_usd" sampleRecord.amountUsd = .ok ⟨false, 586302, 2⟩ :=
    decimal_eq_ok.mpr (by decide +kernel)
  have value : amountUsd.value = 5863.02 := by
    cases converted.symm.trans shown
    norm_num [value, magnitude]
  have bps : (500 : UInt32).toNat = 500 := rfl
  refine ⟨_, price, calculate_sample, priced, low, high, ?_⟩
  rw [exact (by rw [value]; norm_num) ⟨5863020000000000000000000000, by rw [value]; norm_num⟩,
    value, bps]
  norm_num

end Payout

end RebateRelay
