import Mathlib
import RebateRelay.Proofs.Number.Double
import RebateRelay.Time.Duration

/-!
# Doubles: zeros and finite numbers

A double may be a zero of either sign. A zero times a finite number is a zero, and which zero is
added to a number of seconds makes no difference to the duration that it stands for. Where a
product may not leave the finite numbers, its exponent is bounded through both roundings.
-/

namespace RebateRelay.Number

open Float.Model (UnpackedFloat totalExponent)
open Float.Model.UnpackedFloat

/-- A zero of either sign. -/
def IsZero (x : Float) : Prop := ∃ sign, x.toModel.unpack = .zero sign

/-- What an operation gives where numbers have no answer. -/
def noNumber : Float := .ofModel (.pack .notANumber)

variable {x z z' : Float}

theorem isZero_zero : IsZero 0 := ⟨.positive, unpack_zero⟩

theorem isZero_pack (sign : Sign) : IsZero (.ofModel (.pack (.zero sign))) := by
  refine ⟨sign, ?_⟩
  cases sign <;> rfl

theorem sub_noNumber (x : Float) : x - noNumber = noNumber := by
  change Float.ofModel (.pack (sub .binary64 x.toModel.unpack .notANumber)) = noNumber
  cases x.toModel.unpack <;> rfl

theorem noNumber_add (x : Float) : noNumber + x = noNumber := by
  change Float.ofModel (.pack (add .binary64 .notANumber x.toModel.unpack)) = noNumber
  cases x.toModel.unpack <;> rfl

/-- A finite number that is neither below nor above zero is a zero. -/
theorem isZero_of_finite (finite : x.isFinite = true) (below : ¬x < 0) (above : ¬0 < x) :
    IsZero x := by
  have finite : x.toModel.unpack.isFinite = true := finite
  rw [lt_iff_unpack, unpack_zero] at below above
  cases unpacked : x.toModel.unpack with
  | zero s => exact ⟨s, unpacked⟩
  | finite s m e positive =>
      rw [unpacked] at below above
      cases s
      · exact absurd rfl below
      · exact absurd rfl above
  | infinity s => simp [unpacked, isFinite] at finite
  | notANumber => simp [unpacked, isFinite] at finite

/-- A zero times a finite number is a zero. -/
theorem IsZero.finite_mul (zero : IsZero z) (finite : x.isFinite = true) : IsZero (x * z) := by
  obtain ⟨sign, zero⟩ := zero
  change IsZero (.ofModel (.pack (mul .binary64 x.toModel.unpack z.toModel.unpack)))
  have finite : x.toModel.unpack.isFinite = true := finite
  rw [zero]
  cases unpacked : x.toModel.unpack with
  | zero s => exact isZero_pack _
  | finite s m e positive => exact isZero_pack _
  | infinity s => simp [unpacked, isFinite] at finite
  | notANumber => simp [unpacked, isFinite] at finite

/-- A zero times any number is a zero or no number. -/
theorem IsZero.mul (zero : IsZero z) (x : Float) : IsZero (x * z) ∨ x * z = noNumber := by
  by_cases finite : x.isFinite = true
  · exact .inl (zero.finite_mul finite)
  · obtain ⟨sign, zero⟩ := zero
    right
    change Float.ofModel (.pack (UnpackedFloat.mul .binary64 x.toModel.unpack z.toModel.unpack)) = _
    have finite : ¬x.toModel.unpack.isFinite = true := finite
    rw [zero]
    cases unpacked : x.toModel.unpack with
    | zero s => simp [unpacked, isFinite] at finite
    | finite s m e positive => simp [unpacked, isFinite] at finite
    | infinity s => rfl
    | notANumber => rfl

/-- It does not matter which zero is added to a number of seconds. -/
theorem ofSeconds?_add_zero (zero : IsZero z) (zero' : IsZero z') (x : Float) :
    Duration.ofSeconds? (x + z) = Duration.ofSeconds? (x + z') := by
  obtain ⟨sign, zero⟩ := zero
  obtain ⟨sign', zero'⟩ := zero'
  change Duration.ofSeconds? (.ofModel (.pack (add .binary64 x.toModel.unpack z.toModel.unpack))) =
    Duration.ofSeconds? (.ofModel (.pack (add .binary64 x.toModel.unpack z'.toModel.unpack)))
  rw [zero, zero']
  cases x.toModel.unpack with
  | zero s => cases s <;> cases sign <;> cases sign' <;> decide +kernel
  | finite s m e positive => rfl
  | infinity s => rfl
  | notANumber => rfl

/-! ## Products that stay finite -/

theorem mantissa_lt {x : Float} {s : Sign} {m : Nat} {e : Int} {positive : 0 < m}
    (unpacked : x.toModel.unpack = .finite s m e positive) : m < 2 ^ 53 := by
  have bound := (@unpackMantissa .binary64 x.toModel.toBits.toBitVec).isLt
  simp only [Float.Model.unpack, UnpackedFloat.unpack] at unpacked
  split_ifs at unpacked
  · injection unpacked with _ same
    subst same
    exact Nat.lt_of_lt_of_le bound (by decide)
  · injection unpacked with _ same
    subst same
    exact (1#1 ++ _ : BitVec 53).isLt

/-- A number up to one has its mantissa behind the point. -/
theorem exponent_le_of_not_gt {x : Float} {s : Sign} {m : Nat} {e : Int} {positive : 0 < m}
    (unpacked : x.toModel.unpack = .finite s m e positive) (below : ¬x < 0) (small : ¬1 < x) :
    e ≤ -52 := by
  have one : (1 : Float).toModel.unpack = .finite .positive (2 ^ 52) (-52) (by decide) := rfl
  rw [lt_iff_unpack, unpacked, unpack_zero] at below
  rw [lt_iff_unpack, unpacked, one] at small
  cases s with
  | negative => exact absurd rfl below
  | positive =>
      by_contra large
      have lt : compare (-52) e = .lt := Int.compare_eq_lt.mpr (Int.not_le.mp large)
      simp [UnpackedFloat.lt, UnpackedFloat.compare, lt] at small

theorem mantissa_shiftRight_le (em : ExtendedMantissa) (n : Nat) :
    (em >>> n).mantissa ≤ em.mantissa := by
  change (Nat.repeat ExtendedMantissa.shiftRightOne n em).mantissa ≤ em.mantissa
  induction n with
  | zero => exact Nat.le_refl _
  | succ n ih => exact Nat.le_trans (Nat.div_le_self _ _) ih

theorem roundedMantissa_le (em : ExtendedMantissa) : em.roundedMantissa ≤ em.mantissa + 1 := by
  unfold ExtendedMantissa.roundedMantissa Accuracy.roundToNearestEven
  split <;> omega

/-- A shift to the exponent that a mantissa of so many bits should have keeps the exponent low. -/
theorem snd_shiftToTargetExponent_le {m : Nat} {e bound : Int} (nonzero : m ≠ 0) {n : Nat}
    (small : m < 2 ^ n) (low : e ≤ bound) (least : -1074 ≤ bound) :
    (shiftToTargetExponent .binary64 m e .exact).2 ≤ max bound (n + bound - 53) := by
  have log : m.log2 < n := (Nat.log2_lt nonzero).mpr small
  have bits : (Float.Model.Format.binary64.mantissaBits : Int) = 53 := rfl
  have minimum : Float.Model.Format.binary64.minExponent = -1074 := rfl
  simp only [shiftToTargetExponent, shiftToExponent, Float.Model.Format.targetExponent,
    totalExponent, bits, minimum]
  omega

theorem mantissa_shiftToTargetExponent_le (m : Nat) (e : Int) :
    (shiftToTargetExponent .binary64 m e .exact).1.mantissa ≤ m :=
  mantissa_shiftRight_le _ _

/-- What has no large parts is rounded to what has no large exponent. -/
theorem roundWithAccuracy_of_small {sign : Sign} {m : Nat} {e : Int} (positive : 0 < m)
    (small : m < 2 ^ 105) (low : e ≤ 0) :
    roundWithAccuracy .binary64 sign m e .exact = .zero sign ∨
      ∃ m' e' positive, roundWithAccuracy .binary64 sign m e .exact = .finite sign m' e' positive ∧
        e' ≤ 105 := by
  have first := snd_shiftToTargetExponent_le (by omega) small low (by decide)
  have le := mantissa_shiftToTargetExponent_le m e
  generalize taken : shiftToTargetExponent .binary64 m e .exact = step at first le
  have rounded := roundedMantissa_le step.1
  unfold roundWithAccuracy
  simp only [taken]
  split_ifs with zero
  · exact .inl rfl
  · refine .inr ⟨_, _, Nat.pos_of_ne_zero zero, rfl, ?_⟩
    have nonzero : step.1.roundedMantissa ≠ 0 := by
      intro none
      have le := mantissa_shiftToTargetExponent_le step.1.roundedMantissa step.2
      omega
    have second := @snd_shiftToTargetExponent_le step.1.roundedMantissa step.2 52 nonzero 106
      (by omega) (by omega) (by decide)
    omega

/-- What has no large exponent is packed as a finite number. -/
theorem isFinite_pack {s : Sign} {m : Nat} {e : Int} {positive : 0 < m} (low : e ≤ 105) :
    (Float.Model.pack (.finite s m e positive)).unpack.isFinite = true := by
  have bias : (Float.Model.Format.binary64.exponentBias : Int) = 1023 := rfl
  have bits : (Float.Model.Format.binary64.mantissaBitsWithoutImplicit : Int) = 52 := rfl
  change (UnpackedFloat.unpack .binary64
    (UnpackedFloat.pack .binary64 (.finite s m e positive))).isFinite = true
  have small : (e + 1023 + 52).toNat ≤ 1180 := by omega
  have range : ¬2 ^ Float.Model.Format.binary64.exponentBits ≤ (e + 1023 + 52).toNat + 1 := by
    change ¬2 ^ 11 ≤ _
    omega
  simp only [UnpackedFloat.pack, bias, bits, if_neg range]
  split_ifs with normal
  · have field : BitVec.ofNat 11 (e + 1023 + 52).toNat ≠ -1#11 := by
      intro full
      have all := congrArg BitVec.toNat full
      simp at all
      omega
    simp only [UnpackedFloat.unpack, unpackExponent_packComponents]
    rw [if_neg field]
    split_ifs <;> rfl
  · simp only [UnpackedFloat.unpack, unpackExponent_packComponents]
    rw [if_neg (by decide)]
    split_ifs <;> rfl

/-- Twice a number between zero and one is finite. -/
theorem isFinite_mul_two {x : Float} (finite : x.isFinite = true) (below : ¬x < 0)
    (small : ¬1 < x) : (x * 2).isFinite = true := by
  have finite : x.toModel.unpack.isFinite = true := finite
  have two : (2 : Float).toModel.unpack = .finite .positive (2 ^ 52) (-51) (by decide) := rfl
  change (Float.Model.pack (mul .binary64 x.toModel.unpack
    (2 : Float).toModel.unpack)).unpack.isFinite = true
  rw [two]
  cases unpacked : x.toModel.unpack with
  | zero s => cases s <;> rfl
  | infinity s => simp [unpacked, isFinite] at finite
  | notANumber => simp [unpacked, isFinite] at finite
  | finite s m e positive =>
      have low := exponent_le_of_not_gt unpacked below small
      have bound := mantissa_lt unpacked
      change (Float.Model.pack (roundWithAccuracy .binary64 (s * .positive) (m * 2 ^ 52) (e + -51)
        .exact)).unpack.isFinite = true
      obtain zero | ⟨m', e', positive', rounded, low'⟩ :=
        @roundWithAccuracy_of_small (s * .positive) (m * 2 ^ 52) (e + -51) (by omega) (by omega)
          (by omega)
      · rw [zero]
        cases s <;> rfl
      · rw [rounded]
        exact isFinite_pack low'

end RebateRelay.Number
