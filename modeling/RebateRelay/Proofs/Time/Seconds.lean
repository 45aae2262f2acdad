import RebateRelay.Proofs.Number.Rounding
import RebateRelay.Time.Clock

/-!
# Time in exact seconds

Durations and instants are whole numbers of nanoseconds. Their seconds are rational numbers, and a
rational number of seconds has a nearest duration.
-/

namespace RebateRelay

open Number

namespace Duration

/-- A duration in seconds, exactly. -/
def seconds (d : Duration) : ℚ := d.nanos / nanosPerSecond

/-- A nanosecond. -/
def nano : Duration := ⟨1⟩

/-- So many seconds to the nearest nanosecond, however many they are. -/
def nearest (x : ℚ) : Duration := ⟨roundHalfEven (x.num.toNat * nanosPerSecond) x.den⟩

theorem seconds_nonneg (d : Duration) : 0 ≤ d.seconds := by
  unfold seconds
  positivity

theorem nanos_eq (d : Duration) : (d.nanos : ℚ) = d.seconds * nanosPerSecond := by
  have second : (nanosPerSecond : ℚ) ≠ 0 := by norm_num [nanosPerSecond]
  rw [seconds, div_mul_cancel₀ _ second]

/-- The seconds are the whole ones and the rest. -/
theorem seconds_eq_add (d : Duration) : d.seconds = (d.nanos / nanosPerSecond : ℕ) +
    (d.nanos % nanosPerSecond : ℕ) / nanosPerSecond := by
  have second : (nanosPerSecond : ℚ) ≠ 0 := by norm_num [nanosPerSecond]
  rw [seconds, add_div' _ _ _ second]
  congr 1
  exact_mod_cast (Nat.div_add_mod' d.nanos nanosPerSecond).symm

theorem seconds_le_of_nanos_le {d : Duration} {n : ℕ} (few : d.nanos ≤ n * nanosPerSecond) :
    d.seconds ≤ n := by
  refine div_le_of_le_mul₀ (Nat.cast_nonneg _) (Nat.cast_nonneg _) ?_
  exact_mod_cast few

@[simp] theorem seconds_zero : zero.seconds = 0 := by simp [seconds, zero]

theorem abs_seconds_nearest_sub_le {x : ℚ} (nonneg : 0 ≤ x) :
    |(nearest x).seconds - x| ≤ nano.seconds / 2 := by
  have second : (0 : ℚ) < nanosPerSecond := by norm_num [nanosPerSecond]
  have numerator : (x.num.toNat : ℚ) = x.num := by
    exact_mod_cast Int.toNat_of_nonneg (Rat.num_nonneg.mpr nonneg)
  have exact' : ((x.num.toNat * nanosPerSecond : ℕ) : ℚ) / x.den = x * nanosPerSecond := by
    rw [Nat.cast_mul, numerator, mul_div_right_comm, Rat.num_div_den]
  have rounded := abs_roundHalfEven_sub_le (n := x.num.toNat * nanosPerSecond) x.den_pos
  rw [exact'] at rounded
  have scaled : (nearest x).seconds - x =
      (roundHalfEven (x.num.toNat * nanosPerSecond) x.den - x * nanosPerSecond) /
        nanosPerSecond := by
    rw [sub_div, mul_div_cancel_right₀ x second.ne']
    rfl
  rw [scaled, abs_div, abs_of_pos second, div_le_iff₀ second]
  refine rounded.trans_eq ?_
  simp only [nano, seconds, Nat.cast_one]
  field_simp

end Duration

namespace Instant

/-- The seconds since the start of the clock, exactly. -/
def seconds (t : Instant) : ℚ := t.nanos / Duration.nanosPerSecond

theorem seconds_after (t : Instant) (d : Duration) :
    (t.after d).seconds = t.seconds + d.seconds := by
  simp [seconds, after, Duration.seconds, add_div]

theorem seconds_since {t u : Instant} (h : u ≤ t) :
    (t.since u).seconds = t.seconds - u.seconds := by
  rw [le_def] at h
  simp [seconds, since, Duration.seconds, Nat.cast_sub h, sub_div]

theorem seconds_le {t u : Instant} (h : t ≤ u) : t.seconds ≤ u.seconds := by
  have nanos : (t.nanos : ℚ) ≤ u.nanos := by exact_mod_cast h
  unfold seconds
  gcongr

end Instant

end RebateRelay
