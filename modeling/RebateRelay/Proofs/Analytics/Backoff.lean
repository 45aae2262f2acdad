import RebateRelay.Analytics.Backoff
import RebateRelay.Proofs.Number.SignedZero

/-!
# Waits without jitter

A policy whose randomization is zero, below zero or no finite number does not spread its waits:
whatever the sample, the wait with jitter is the same. This is so in doubles, where the part to
spread by is a zero of either sign, and its product with the wait a zero or no number.
-/

namespace RebateRelay

open Number

namespace BackoffPolicy

variable {p : BackoffPolicy}

/-- A number that is cut to the range from zero to one may be doubled. -/
theorem isFinite_clampUnit_mul_two {x : Float} (finite : x.isFinite = true) :
    (clampUnit x * 2).isFinite = true := by
  unfold clampUnit
  split
  case isTrue => decide +kernel
  case isFalse below =>
    split
    case isTrue => decide +kernel
    case isFalse small => exact isFinite_mul_two finite below small

theorem isZero_clampUnit {x : Float} (finite : x.isFinite = true) (above : ¬0 < x) :
    IsZero (clampUnit x) := by
  unfold clampUnit
  split
  case isTrue => exact isZero_zero
  case isFalse below =>
    have zero := isZero_of_finite finite below above
    split
    case isTrue large =>
      obtain ⟨s, zero⟩ := zero
      rw [lt_iff_unpack, zero] at large
      cases s <;> cases large
    case isFalse => exact zero

/-- The waits of a policy are not spread: the part by which jitter may change them is none, or no
number. -/
def IsSteady (p : BackoffPolicy) : Prop := p.randomization.isFinite = true → ¬0 < p.randomization

instance : Decidable p.IsSteady :=
  inferInstanceAs (Decidable (p.randomization.isFinite = true → ¬0 < p.randomization))

/-- The wait with jitter of a steady policy does not depend on the sample. -/
theorem IsSteady.jitter_eq (steady : p.IsSteady) (wait : Duration) (sample sample' : Float) :
    p.jitter wait sample = p.jitter wait sample' := by
  have part : IsZero (if p.randomization.isFinite then clampUnit p.randomization else 0) := by
    split
    case isTrue finite => exact isZero_clampUnit finite (steady finite)
    case isFalse => exact isZero_zero
  have doubled (s : Float) :
      ((if s.isFinite then clampUnit s else 0.5) * 2).isFinite = true := by
    split
    case isTrue finite => exact isFinite_clampUnit_mul_two finite
    case isFalse => decide +kernel
  simp only [jitter]
  rcases part.mul wait.toSeconds with zero | none
  · rw [ofSeconds?_add_zero (zero.finite_mul (doubled sample)) (zero.finite_mul (doubled sample'))]
  · rw [none, sub_noNumber, noNumber_add, noNumber_add]

end BackoffPolicy

end RebateRelay
