import RebateRelay.Proofs.Number.QuotientRange
import RebateRelay.Proofs.Rebate.WholeUnits

/-!
# More for more

Two payouts are compared here. A transfer of a larger value never earns a smaller rebate, and a
better rate never pays less; a higher price of the payout token never pays more units of it. Each
stage of a payout is rounded, at a place and in a way that depend on the digits; but as each is the
exact number rounded at its last place, the order of exact numbers is kept by every stage.
-/

namespace RebateRelay

namespace Payout

open Number Number.Decimal

namespace Stages.Lead

variable {record record' : Record} {rates rates' : RateTable} {payout payout' : Payout}
variable {s s' : Stages}

/-- The rebate is what is due, rounded. -/
theorem roundsTo_rebateUsd (h : s.Lead record rates payout) :
    RoundsTo (dueUsd payout.rebateBps s.amountUsd) payout.rebateUsd.value := by
  have rounded := roundsTo_mul? h.rebateUsd
  rwa [h.magnitude_rate, ← value_of_not_negative h.owed, ← mul_div_assoc,
    ← value_of_not_negative h.rebateUsd_not_negative] at rounded

/-- The number of tokens is the rebate over the price, rounded. -/
theorem roundsTo_tokens (h : s.Lead record rates payout) :
    RoundsTo (payout.rebateUsd.value / s.price.value) s.tokens.value := by
  have rounded := roundsTo_div? h.isNear_rebateUsd.valid h.tokens
  rwa [← value_of_not_negative h.rebateUsd_not_negative, h.price_eq_magnitude,
    ← value_of_not_negative h.tokens_not_negative] at rounded

/-- The amount is the whole part of the smallest units. -/
theorem amount_eq_floor (h : s.Lead record rates payout) :
    (payout.amount : ℤ) = ⌊s.tokens.value * 10 ^ 18⌋ := by
  rw [← h.value_units, value_of_not_negative h.units_not_negative, floor_magnitude, h.amount]

theorem rebateUsd_mono (h : s.Lead record rates payout) (h' : s'.Lead record' rates' payout')
    (due : dueUsd payout.rebateBps s.amountUsd ≤ dueUsd payout'.rebateBps s'.amountUsd) :
    payout.rebateUsd.value ≤ payout'.rebateUsd.value :=
  h.roundsTo_rebateUsd.mono h'.roundsTo_rebateUsd due

/-- A rebate that is no smaller makes an amount that is no smaller, at a price that is no higher. -/
theorem amount_mono (h : s.Lead record rates payout) (h' : s'.Lead record' rates' payout')
    (rebate : payout.rebateUsd.value ≤ payout'.rebateUsd.value)
    (price : s'.price.value ≤ s.price.value) : payout.amount ≤ payout'.amount := by
  have positive := h'.price_pos
  have nonneg := h'.roundsTo_rebateUsd.nonneg
  have tokens : s.tokens.value ≤ s'.tokens.value := by
    apply h.roundsTo_tokens.mono h'.roundsTo_tokens
    gcongr
  have units : (payout.amount : ℤ) ≤ payout'.amount := by
    rw [h.amount_eq_floor, h'.amount_eq_floor]
    gcongr
  exact_mod_cast units

end Stages.Lead

/-- Of two payouts at the same rate and price the one for the larger value is no smaller, in dollars
and in units; nor is the one at the better rate, for the same value at the same price; and for the
same value at the same rate the one at the higher price is no larger in units. -/
theorem payout_monotone {record record' : Record} {rates rates' : RateTable}
    {payout payout' : Payout} (calculated : calculate record rates = .ok payout)
    (calculated' : calculate record' rates' = .ok payout') :
    ∃ amountUsd price amountUsd' price',
      decimal "amount_usd" record.amountUsd = .ok amountUsd ∧
      decimal "arb_price" record.arbPrice = .ok price ∧
      decimal "amount_usd" record'.amountUsd = .ok amountUsd' ∧
      decimal "arb_price" record'.arbPrice = .ok price' ∧
      (payout.rebateBps = payout'.rebateBps → price.value = price'.value →
        amountUsd.value ≤ amountUsd'.value →
        payout.rebateUsd.value ≤ payout'.rebateUsd.value ∧ payout.amount ≤ payout'.amount) ∧
      (amountUsd.value = amountUsd'.value → price.value = price'.value →
        payout.rebateBps ≤ payout'.rebateBps →
        payout.rebateUsd.value ≤ payout'.rebateUsd.value ∧ payout.amount ≤ payout'.amount) ∧
      (payout.rebateBps = payout'.rebateBps → amountUsd.value = amountUsd'.value →
        price.value ≤ price'.value → payout'.amount ≤ payout.amount) := by
  obtain ⟨s, h⟩ := exists_stages calculated
  obtain ⟨s', h'⟩ := exists_stages calculated'
  refine ⟨s.amountUsd, s.price, s'.amountUsd, s'.price, h.amountUsd, h.price, h'.amountUsd,
    h'.price, ?value, ?rate, ?price⟩
  case value =>
    intro rate price value
    have due : dueUsd payout.rebateBps s.amountUsd ≤ dueUsd payout'.rebateBps s'.amountUsd := by
      unfold dueUsd
      rw [rate]
      gcongr
    have rebate := h.rebateUsd_mono h' due
    exact ⟨rebate, h.amount_mono h' rebate price.ge⟩
  case rate =>
    intro value price rate
    have nonneg := h'.amountUsd_nonneg
    have due : dueUsd payout.rebateBps s.amountUsd ≤ dueUsd payout'.rebateBps s'.amountUsd := by
      unfold dueUsd
      rw [value]
      gcongr
      exact UInt32.le_iff_toNat_le.mp rate
    have rebate := h.rebateUsd_mono h' due
    exact ⟨rebate, h.amount_mono h' rebate price.ge⟩
  case price =>
    intro rate value price
    have due : dueUsd payout'.rebateBps s'.amountUsd = dueUsd payout.rebateBps s.amountUsd := by
      unfold dueUsd
      rw [rate, value]
    exact h'.amount_mono h (h'.rebateUsd_mono h due.le) price

/-- Two transfers whose numbers of tokens differ in the fifteenth digit and have their last places
on either side of the bound of mantissas. -/
theorem payout_monotone_across_places :
    let rates := RateTable.empty.insert 42161 "SynapseBridge" "USDC" 10000
    let lower := { Record.sample "0x01" 23.7684487542793 with arbPrice := 3 }
    let upper := { Record.sample "0x02" 23.7684487542794 with arbPrice := 3 }
    ∃ payout payout', calculate lower rates = .ok payout ∧ calculate upper rates = .ok payout' ∧
      payout.rebateUsd.value ≤ payout'.rebateUsd.value ∧ payout.amount ≤ payout'.amount := by
  intro rates lower upper
  have calculated : calculate lower rates =
      .ok ⟨42161, 10000, ⟨false, 237684487542793, 13⟩, 7922816251426433333⟩ :=
    eq_ok_of_toOption (by decide +kernel)
  have calculated' : calculate upper rates =
      .ok ⟨42161, 10000, ⟨false, 237684487542794, 13⟩, 7922816251426466666⟩ :=
    eq_ok_of_toOption (by decide +kernel)
  obtain ⟨amountUsd, price, amountUsd', price', converted, priced, converted', priced', larger,
    -⟩ := payout_monotone calculated calculated'
  have shown : decimal "amount_usd" lower.amountUsd = .ok ⟨false, 237684487542793, 13⟩ :=
    decimal_eq_ok.mpr (by decide +kernel)
  have shown' : decimal "amount_usd" upper.amountUsd = .ok ⟨false, 237684487542794, 13⟩ :=
    decimal_eq_ok.mpr (by decide +kernel)
  cases converted.symm.trans shown
  cases converted'.symm.trans shown'
  cases priced.symm.trans priced'
  exact ⟨_, _, calculated, calculated', larger rfl rfl (by norm_num [value, magnitude])⟩

end Payout

end RebateRelay
