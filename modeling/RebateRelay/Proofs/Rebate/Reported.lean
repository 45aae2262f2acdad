import RebateRelay.Proofs.Number.FromDouble
import RebateRelay.Proofs.Rebate.Accuracy

/-!
# The numbers that were reported

The analytics service reports decimals, and they arrive as the doubles nearest to them. The decimal
that a payout is worked out from is the one that was reported, as long as that has no more than
fifteen digits, with one exception. Digits behind the sixteenth are dropped one at a time, which can
round a rest of less than a half up; so a number whose first sixteen digits come close to the bound
for doubles may come out one unit too large in the last of them.
-/

namespace RebateRelay

namespace Payout

open Number Number.Decimal

/-- A number of no more than fifteen digits, over as few places as it needs. -/
theorem exists_places {n : ℕ} {z : ℤ} (digits : n < 10 ^ 15) (low : (1 : ℚ) / 10 ^ 6 ≤ n * 10 ^ z)
    (high : (n * 10 ^ z : ℚ) < 10 ^ 15) :
    ∃ m j : ℕ, (n * 10 ^ z : ℚ) * 10 ^ j = m ∧ m < 10 ^ 15 ∧ j ≤ 20 := by
  obtain ⟨k, rfl | rfl⟩ := Int.eq_nat_or_neg z
  · rw [zpow_natCast] at low high ⊢
    refine ⟨n * 10 ^ k, 0, by push_cast; ring, by exact_mod_cast high, Nat.zero_le 20⟩
  · have unit : (0 : ℚ) < 10 ^ k := by positivity
    rw [zpow_neg, zpow_natCast, ← div_eq_mul_inv] at low high ⊢
    refine ⟨n, k, div_mul_cancel₀ _ unit.ne', digits, ?_⟩
    rw [div_le_div_iff₀ (by positivity) unit, one_mul] at low
    have low : 10 ^ k ≤ n * 10 ^ 6 := by exact_mod_cast low
    have power : 10 ^ k < 10 ^ 21 := by omega
    exact Nat.le_of_lt_succ ((Nat.pow_lt_pow_iff_right (by decide)).mp power)

/-- A number of no more than fifteen digits, between a millionth and ten to the fifteenth, is what a
payout is worked out from when the double nearest to it comes in. Only if it has a last place `k`
in which it is less than `2 ^ 52` units, and more than eight ninths of that, and if the double is
above it by more than four ninths of that unit, it may be that unit more. -/
theorem decimal_of_nearest_double (name : String) {v : Float} {n : ℕ} {z : ℤ}
    (digits : n < 10 ^ 15) (low : (1 : ℚ) / 10 ^ 6 ≤ n * 10 ^ z)
    (high : (n * 10 ^ z : ℚ) < 10 ^ 15) (nearest : IsNearestDouble v (n * 10 ^ z)) :
    ∃ parts x, Binary64.ofFloat? v = some parts ∧ decimal name v = .ok x ∧
      x.negative = false ∧ WrittenAs parts.value (n * 10 ^ z) x.value := by
  obtain ⟨parts, taken, nearest⟩ := nearest
  obtain ⟨m, j, written, digits, few⟩ := exists_places digits low high
  generalize (n * 10 ^ z : ℚ) = d at low high nearest written ⊢
  have ordinary := nearest.isOrdinary taken (le_trans (by norm_num) low) (by linarith)
  obtain ⟨close, close'⟩ := nearest.abs_value_sub_le ordinary
  have large : 1 / 10 ^ 7 ≤ parts.value := by
    have near := (abs_le.mp close).1
    linarith
  obtain ⟨x, b, places, dropped, converted, positive, shortens, shown⟩ :=
    exists_ofBinary? ordinary large
  refine ⟨parts, x, taken, ?_, positive, ?_⟩
  · rw [decimal_eq_ok, ofFloat?, taken]
    exact converted
  · rw [value_of_not_negative positive, shown]
    exact shortens.writtenAs ⟨close, close'⟩ written digits few high

theorem ofFloat?_tenth : Binary64.ofFloat? 0.1 = some ⟨false, 7205759403792794, -56⟩ := by
  decide +kernel

/-- A tenth is worked with as a tenth. -/
theorem decimal_of_nearest_double_tenth :
    IsNearestDouble 0.1 ((1 : ℕ) * 10 ^ (-1 : ℤ)) ∧
      ∃ parts x, Binary64.ofFloat? 0.1 = some parts ∧ decimal "amount_usd" 0.1 = .ok x ∧
        WrittenAs parts.value ((1 : ℕ) * 10 ^ (-1 : ℤ)) x.value := by
  have nearest : IsNearestDouble 0.1 ((1 : ℕ) * 10 ^ (-1 : ℤ)) := by
    refine ⟨_, ofFloat?_tenth, ?_⟩
    apply Binary64.isNearest_of_abs_sub_le rfl (by norm_num)
    norm_num [Binary64.value, abs_le]
  obtain ⟨parts, x, taken, converted, -, written⟩ :=
    decimal_of_nearest_double "amount_usd" (by norm_num) (by norm_num) (by norm_num) nearest
  exact ⟨nearest, parts, x, taken, converted, written⟩

/-- A reported number of seven digits that is worked with as a larger one. -/
theorem decimal_ne_reported :
    (1 : ℚ) / 10 ^ 6 ≤ (4096029 : ℕ) * 10 ^ (-3 : ℤ) ∧
      ((4096029 : ℕ) * 10 ^ (-3 : ℤ) : ℚ) < 10 ^ 15 ∧
      IsNearestDouble 4096.029 ((4096029 : ℕ) * 10 ^ (-3 : ℤ)) ∧
      ∃ x, decimal "amount_usd" 4096.029 = .ok x ∧
        x.value = 4096.029000000001 ∧ x.value ≠ (4096029 : ℕ) * 10 ^ (-3 : ℤ) := by
  have taken : Binary64.ofFloat? 4096.029 = some ⟨false, 4503631513207702, -40⟩ := by
    decide +kernel
  have converted : decimal "amount_usd" 4096.029 = .ok ⟨false, 4096029000000001, 12⟩ :=
    decimal_eq_ok.mpr (by decide +kernel)
  refine ⟨by norm_num, by norm_num, ⟨_, taken, ?_⟩, _, converted, ?_, ?_⟩
  · apply Binary64.isNearest_of_abs_sub_le rfl (by norm_num)
    norm_num [Binary64.value, abs_le]
  · norm_num [value, magnitude]
  · norm_num [value, magnitude]

end Payout

end RebateRelay
