import Mathlib.Data.Rat.Floor
import RebateRelay.Proofs.Ledger.History
import RebateRelay.Proofs.Number.Division
import RebateRelay.Proofs.Number.Double
import RebateRelay.Proofs.Result
import RebateRelay.Rebate.Payout

/-!
# How accurate a payout is

A payout goes through stages: the rate, the rebate in dollars, the number of tokens, the number of
smallest units. The rate is exact, and so is the step to smallest units, where the rest is cut off.
The rebate and the number of tokens are rounded to the nearest decimal, and may be rounded up. The
amount is therefore not below what is due by more than one unit and the tolerance of the two
roundings, and not above it by more than that tolerance; it is above when the tolerance reaches the
next whole unit.
-/

namespace RebateRelay

namespace Payout

open Number Number.Decimal

theorem step_eq_ok {α : Type} {name : String} {x : Option α} {a : α} :
    step name x = .ok a ↔ x = some a := by
  cases x <;> simp [step]

theorem decimal_eq_ok {name : String} {value : Float} {d : Decimal} :
    decimal name value = .ok d ↔ ofFloat? value = some d := by
  unfold decimal
  cases ofFloat? value <;> simp

/-! ## What is due -/

/-- The rebate in dollars that is due for a value at a rate, before any rounding. -/
def dueUsd (bps : UInt32) (amountUsd : Decimal) : ℚ := amountUsd.value * bps.toNat / 10000

/-- The smallest units that are due at a price, before any rounding. -/
def due (bps : UInt32) (amountUsd price : Decimal) : ℚ :=
  dueUsd bps amountUsd / price.value * 10 ^ 18

/-- The tolerance of the two roundings in smallest units: that of the rebate, at its price, and that
of the number of tokens. -/
def slack (bps : UInt32) (amountUsd price : Decimal) : ℚ :=
  let usd := dueUsd bps amountUsd
  (tolerance usd / price.value + tolerance ((usd + tolerance usd) / price.value)) * 10 ^ 18

/-! ## The stages -/

/-- The decimals between the inputs of a payout and its amount, but for the rebate itself. -/
structure Stages where
  amountUsd : Decimal
  price : Decimal
  rate : Decimal
  tokens : Decimal
  units : Decimal

/-- The stages lead from a record to its payout. -/
structure Stages.Lead (record : Record) (rates : RateTable) (payout : Payout) (s : Stages) :
    Prop where
  looked : rates.rebateBps payout.chainId record.module record.token = .ok payout.rebateBps
  positive : isPrice record.arbPrice = true
  amountUsd : decimal "amount_usd" record.amountUsd = .ok s.amountUsd
  owed : s.amountUsd.negative = false
  price : decimal "arb_price" record.arbPrice = .ok s.price
  rate : rate? payout.rebateBps = some s.rate
  rebateUsd : s.amountUsd.mul? s.rate = some payout.rebateUsd
  tokens : payout.rebateUsd.div? s.price = some s.tokens
  units : s.tokens.mul? unitsPerToken = some s.units
  amount : payout.amount = s.units.integerPart
  inside : payout.amount < amountBound

variable {record : Record} {rates : RateTable} {payout : Payout} {s : Stages}

/-- A payout is worked out through its stages. -/
theorem exists_stages (calculated : calculate record rates = .ok payout) :
    ∃ s : Stages, s.Lead record rates payout := by
  simp only [calculate, bind_eq_ok, check_eq_ok, Bool.not_eq_true, Bool.not_eq_false'] at calculated
  obtain ⟨direction, _, bps, looked, positive, amountUsd, converted, owed, price, priced,
    ⟨rebateUsd, amount⟩, reckoned, shown⟩ := calculated
  cases shown
  simp only [convert, bind_eq_ok, step_eq_ok] at reckoned
  obtain ⟨rate, quotient, rebate, product, tokens, divided, units, scaled, whole, cut, shown⟩ :=
    reckoned
  cases shown
  split at cut
  case isTrue inside =>
    cases cut
    exact ⟨⟨amountUsd, price, rate, tokens, units⟩, looked, positive, converted, owed, priced,
      quotient, product, divided, scaled, rfl, inside⟩
  case isFalse => cases cut

namespace Stages.Lead

/-- A rate is not rounded. -/
theorem magnitude_rate (h : s.Lead record rates payout) :
    s.rate.magnitude = payout.rebateBps.toNat / 10000 := by
  rw [magnitude_div?_tenTo (k := 4) payout.rebateBps.toNat_lt (by decide) h.rate]
  norm_num

/-- The rebate is the value times the rate, rounded. -/
theorem isNear_rebateUsd (h : s.Lead record rates payout) :
    payout.rebateUsd.IsNear (dueUsd payout.rebateBps s.amountUsd) := by
  have near := isNear_mul? h.rebateUsd
  rwa [h.magnitude_rate, ← value_of_not_negative h.owed, ← mul_div_assoc] at near

/-- A price is above zero also as a decimal. -/
theorem price_pos (h : s.Lead record rates payout) : 0 < s.price.value := by
  have positive : (0 : Float) < record.arbPrice :=
    of_decide_eq_true ((Bool.and_eq_true _ _).mp h.positive).2
  have sign := negative_of_ofFloat? (decimal_eq_ok.mp h.price)
  rw [signBit_of_pos positive] at sign
  rw [value_of_not_negative sign]
  exact magnitude_pos (div?_cases h.tokens).1

theorem amountUsd_nonneg (h : s.Lead record rates payout) : 0 ≤ s.amountUsd.value := by
  rw [value_of_not_negative h.owed]
  exact s.amountUsd.magnitude_nonneg

theorem price_eq_magnitude (h : s.Lead record rates payout) :
    s.price.magnitude = s.price.value :=
  (value_of_not_negative (not_negative_of_pos h.price_pos)).symm

/-- The number of tokens is the rebate over the price, rounded. -/
theorem isNear_tokens (h : s.Lead record rates payout) :
    s.tokens.IsNear (payout.rebateUsd.magnitude / s.price.value) := by
  have near := isNear_div? h.isNear_rebateUsd.valid h.tokens
  rwa [h.price_eq_magnitude] at near

/-- The step to smallest units is exact. -/
theorem magnitude_units (h : s.Lead record rates payout) :
    s.units.magnitude = s.tokens.magnitude * 10 ^ 18 :=
  magnitude_mul?_tenTo h.isNear_tokens.valid h.units

end Stages.Lead

/-! ## The amount -/

/-- The two roundings do not come to a smallest unit before the payout comes to seven thousand
million tokens. -/
theorem slack_lt_one {bps : UInt32} {amountUsd price : Decimal} (positive : 0 < price.value)
    (owed : 0 ≤ amountUsd.value) (few : dueUsd bps amountUsd + 1 ≤ 7 * 10 ^ 9 * price.value) :
    slack bps amountUsd price < 1 := by
  have nonneg : 0 ≤ dueUsd bps amountUsd := by
    unfold dueUsd
    positivity
  unfold slack
  simp only
  generalize dueUsd bps amountUsd = usd at nonneg few ⊢
  have rebate := tolerance_le nonneg
  have tokens : (usd + tolerance usd) / price.value ≤ 8 * 10 ^ 9 - 1 := by
    rw [div_le_iff₀ positive]
    linarith
  have first : tolerance usd / price.value ≤ 64 / 10 ^ 30 * (7 * 10 ^ 9) := by
    rw [div_le_iff₀ positive]
    linarith
  have second : tolerance ((usd + tolerance usd) / price.value) ≤ 64 / 10 ^ 30 * (8 * 10 ^ 9) := by
    have raised := (tolerance_pos usd).le
    refine (tolerance_le (by positivity)).trans ?_
    linarith
  linarith

namespace Stages.Lead

/-- The amount against the number of tokens: smallest units are cut off, not rounded. -/
theorem amount_bounds_of_tokens (h : s.Lead record rates payout) :
    s.tokens.magnitude * 10 ^ 18 - 1 < payout.amount ∧
      payout.amount ≤ s.tokens.magnitude * 10 ^ 18 := by
  rw [← h.magnitude_units, h.amount]
  exact ⟨sub_lt_iff_lt_add.mpr s.units.lt_integerPart_add_one, s.units.integerPart_le⟩

/-- The number of tokens against the rebate that is due. -/
theorem abs_tokens_sub_le (h : s.Lead record rates payout) :
    |s.tokens.magnitude - dueUsd payout.rebateBps s.amountUsd / s.price.value| ≤
      tolerance (dueUsd payout.rebateBps s.amountUsd) / s.price.value +
        tolerance ((dueUsd payout.rebateBps s.amountUsd +
          tolerance (dueUsd payout.rebateBps s.amountUsd)) / s.price.value) := by
  have positive := h.price_pos
  have rebate := h.isNear_rebateUsd.near
  have tokens := h.isNear_tokens.near
  generalize dueUsd payout.rebateBps s.amountUsd = usd at rebate ⊢
  have raised : payout.rebateUsd.magnitude ≤ usd + tolerance usd := by
    linarith [le_abs_self (payout.rebateUsd.magnitude - usd)]
  have wider := tolerance_mono (div_le_div_of_nonneg_right raised positive.le)
  have carried : |payout.rebateUsd.magnitude / s.price.value - usd / s.price.value| ≤
      tolerance usd / s.price.value := by
    rw [← sub_div, abs_div, abs_of_pos positive]
    exact div_le_div_of_nonneg_right rebate positive.le
  calc |s.tokens.magnitude - usd / s.price.value|
      ≤ |s.tokens.magnitude - payout.rebateUsd.magnitude / s.price.value| +
          |payout.rebateUsd.magnitude / s.price.value - usd / s.price.value| :=
        abs_sub_le _ _ _
    _ ≤ _ := by linarith

/-- The amount against what is due. -/
theorem amount_bounds (h : s.Lead record rates payout) :
    due payout.rebateBps s.amountUsd s.price - slack payout.rebateBps s.amountUsd s.price - 1 <
        payout.amount ∧
      payout.amount ≤
        due payout.rebateBps s.amountUsd s.price + slack payout.rebateBps s.amountUsd s.price := by
  obtain ⟨below, above⟩ := h.amount_bounds_of_tokens
  obtain ⟨low, high⟩ := abs_le.mp h.abs_tokens_sub_le
  unfold due slack
  simp only
  constructor <;> linarith

end Stages.Lead

/-- The amount of a payout is what is due but for the two roundings and the cut at the end. It is
above what is due only where a whole number of units lies within the tolerance above it, and for
less than seven thousand million tokens by no more than that one unit. -/
theorem amount_near_due (calculated : calculate record rates = .ok payout) :
    ∃ amountUsd price,
      decimal "amount_usd" record.amountUsd = .ok amountUsd ∧
      decimal "arb_price" record.arbPrice = .ok price ∧
      rates.rebateBps payout.chainId record.module record.token = .ok payout.rebateBps ∧
      let exact := due payout.rebateBps amountUsd price
      let tolerance := slack payout.rebateBps amountUsd price
      exact - tolerance - 1 < payout.amount ∧ payout.amount ≤ exact + tolerance ∧
      (⌊exact + tolerance⌋ = ⌊exact⌋ →
        payout.amount * price.value * 10000 ≤
          amountUsd.value * payout.rebateBps.toNat * 10 ^ 18) ∧
      (dueUsd payout.rebateBps amountUsd + 1 ≤ 7 * 10 ^ 9 * price.value →
        (payout.amount : ℤ) ≤ ⌊exact⌋ + 1) := by
  obtain ⟨s, h⟩ := exists_stages calculated
  refine ⟨s.amountUsd, s.price, h.amountUsd, h.price, h.looked, ?_⟩
  intro exact tolerance
  have positive := h.price_pos
  obtain ⟨below, above⟩ := h.amount_bounds
  refine ⟨below, above, fun same => ?_, fun few => ?_⟩
  · have whole : (payout.amount : ℚ) ≤ exact :=
      Int.le_floor.mp (same ▸ Int.le_floor.mpr above : (payout.amount : ℤ) ≤ ⌊exact⌋)
    calc payout.amount * s.price.value * 10000 ≤ exact * s.price.value * 10000 := by gcongr
      _ = s.amountUsd.value * payout.rebateBps.toNat * 10 ^ 18 := by
        simp only [exact, due, dueUsd]
        field_simp
  · have small := slack_lt_one positive h.amountUsd_nonneg few
    have next := Int.lt_floor_add_one exact
    have strict : ((payout.amount : ℤ) : ℚ) < ((⌊exact⌋ + 1 + 1 : ℤ) : ℚ) := by
      push_cast
      linarith
    exact Int.lt_add_one_iff.mp (Int.cast_lt.mp strict)

/-- Rates with 500 basis points for transfers of USDC to Arbitrum. -/
def sampleRates : RateTable := RateTable.empty.insert 42161 "SynapseBridge" "USDC" 500

/-- A record whose number of tokens is rounded up to a whole number of smallest units. -/
def sampleRecord : Record := { Record.sample "0x01" 5863.02 with arbPrice := 1.200001417 }

theorem calculate_sample : calculate sampleRecord sampleRates =
    .ok ⟨42161, 500, ⟨false, 2931510, 4⟩, 244292211531613549753⟩ :=
  eq_ok_of_toOption (by decide +kernel)

theorem amount_near_due_of_sample :
    ∃ payout amountUsd price, calculate sampleRecord sampleRates = .ok payout ∧
      decimal "amount_usd" sampleRecord.amountUsd = .ok amountUsd ∧
      decimal "arb_price" sampleRecord.arbPrice = .ok price ∧
      payout.amount ≤
        due payout.rebateBps amountUsd price + slack payout.rebateBps amountUsd price := by
  obtain ⟨amountUsd, price, converted, priced, -, -, above, -⟩ := amount_near_due calculate_sample
  exact ⟨_, amountUsd, price, calculate_sample, converted, priced, above⟩

/-- An amount that is above what is due: the exact quotient is a little below a whole number of
smallest units and is rounded up to it. -/
theorem amount_gt_due :
    ∃ payout amountUsd price, calculate sampleRecord sampleRates = .ok payout ∧
      decimal "amount_usd" sampleRecord.amountUsd = .ok amountUsd ∧
      decimal "arb_price" sampleRecord.arbPrice = .ok price ∧
      amountUsd.value * payout.rebateBps.toNat * 10 ^ 18 <
        payout.amount * price.value * 10000 := by
  refine ⟨_, ⟨false, 586302, 2⟩, ⟨false, 1200001417, 9⟩, calculate_sample,
    decimal_eq_ok.mpr (by decide +kernel), decimal_eq_ok.mpr (by decide +kernel), ?_⟩
  have bps : (500 : UInt32).toNat = 500 := rfl
  norm_num [value, magnitude, bps]

end Payout

end RebateRelay
