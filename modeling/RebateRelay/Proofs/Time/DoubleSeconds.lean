import RebateRelay.Proofs.Number.DoubleArithmetic
import RebateRelay.Proofs.Time.Seconds

/-!
# Durations as doubles

A duration in seconds is turned into a double that is off by little: each of its two parts is
rounded, and so is their sum. A double is turned into the duration with the nearest whole number of
nanoseconds.
-/

namespace RebateRelay

open Number

namespace Number.Binary64

theorem numerator_div_denominator (x : Binary64) :
    (x.numerator : ℚ) / x.denominator = x.significand * 2 ^ x.exponent := by
  have powers : (2 : ℚ) ^ x.exponent.toNat / 2 ^ (-x.exponent).toNat = 2 ^ x.exponent := by
    rw [← zpow_natCast, ← zpow_natCast, ← zpow_sub₀ two_ne_zero]
    congr 1
    omega
  rw [← powers, ← mul_div_assoc]
  simp [numerator, denominator, twoTo]

end Number.Binary64

namespace Duration

variable {d : Duration}

/-- A part of a second is rounded once. -/
theorem exists_denotes_rest {r : ℕ} (rest : r < nanosPerSecond) :
    ∃ q, Rounds (r / nanosPerSecond) q ∧
      Denotes (.ofNat r / .ofNat nanosPerSecond) q := by
  have positive : (0 : ℚ) < nanosPerSecond := by norm_num [nanosPerSecond]
  have denotes : Denotes (.ofNat r) r := denotes_ofNat (rest.trans (by decide))
  have below : (r : ℚ) / nanosPerSecond ≤ 1 := (div_le_one positive).mpr (by exact_mod_cast rest.le)
  have large : (r : ℚ) = 0 ∨ (1 : ℚ) / 2 ^ 100 ≤ r / nanosPerSecond := by
    rcases Nat.eq_zero_or_pos r with none | some
    · exact Or.inl (by exact_mod_cast none)
    · have some : (1 : ℚ) ≤ r := by exact_mod_cast some
      refine Or.inr ((div_le_div_iff₀ (by positivity) positive).mpr ?_)
      norm_num [nanosPerSecond]
      linarith
  exact denotes.div (denotes_ofNat (by decide)) positive large (below.trans (by norm_num))

/-- A duration in seconds is a double close to it. -/
theorem exists_denotes_toSeconds (small : d.seconds ≤ 2 ^ 66) :
    ∃ q, Denotes d.toSeconds q ∧ |q - d.seconds| ≤ (3 * d.seconds + 1) / 2 ^ 53 := by
  have rest : d.nanos % nanosPerSecond < nanosPerSecond := Nat.mod_lt _ (by decide)
  rw [seconds_eq_add] at small ⊢
  unfold toSeconds
  generalize d.nanos / nanosPerSecond = n at small
  generalize d.nanos % nanosPerSecond = r at rest small
  have below : (r : ℚ) / nanosPerSecond ≤ 1 :=
    div_le_one_of_le₀ (by exact_mod_cast rest.le) (Nat.cast_nonneg _)
  have nonneg : (0 : ℚ) ≤ r / nanosPerSecond := by positivity
  have tiny := halfLeast_le
  -- The whole seconds are rounded, the rest is, and then their sum.
  obtain ⟨w, rounds, denotes⟩ := exists_denotes_ofNat (n := n) (by linarith)
  obtain ⟨f, rounds', denotes'⟩ := exists_denotes_rest rest
  have near := abs_le.mp (rounds.abs_sub_le n.cast_nonneg)
  have near' := abs_le.mp (rounds'.abs_sub_le nonneg)
  obtain ⟨q, rounds'', denotes''⟩ := denotes.add denotes' (by linarith)
  have near'' := abs_le.mp (rounds''.abs_sub_le (add_nonneg rounds.nonneg rounds'.nonneg))
  exact ⟨q, denotes'', abs_le.mpr ⟨by linarith, by linarith⟩⟩

/-- The double stands for a number, and the duration is the nearest. -/
theorem exists_denotes_of_ofSeconds? {x : Float} (taken : ofSeconds? x = some d) :
    ∃ q, Denotes x q ∧ IsNearestEven d.nanos (q * nanosPerSecond) := by
  unfold ofSeconds? at taken
  cases parted : Binary64.ofFloat? x with
  | none => simp [parted] at taken
  | some parts =>
      simp only [parted] at taken
      split_ifs at taken with below large
      cases taken
      rw [← lt_zero_iff parted] at below
      refine ⟨parts.value, denotes_value parted below, ?_⟩
      rw [value_of_not_lt_zero parted below, ← parts.numerator_div_denominator, div_mul_eq_mul_div]
      exact_mod_cast isNearestEven_roundHalfEven parts.denominator_pos

/-- A duration that is made of a double, or that stands in where none can be, is bounded if both
are. -/
theorem nanos_getD_ofSeconds?_le {x : Float} {b : ℚ} (other : (d.nanos : ℚ) ≤ b)
    (bound : ∀ q, Denotes x q → q * nanosPerSecond + 1 / 2 ≤ b) :
    (((ofSeconds? x).getD d).nanos : ℚ) ≤ b := by
  cases taken : ofSeconds? x with
  | none => exact other
  | some made =>
      obtain ⟨q, denotes, nearest⟩ := exists_denotes_of_ofSeconds? taken
      have half := (abs_le.mp nearest.near).2
      have bound := bound q denotes
      rw [Option.getD_some]
      linarith

end Duration

end RebateRelay
