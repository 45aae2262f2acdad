import Mathlib
import RebateRelay.Proofs.Number.LastPlace
import RebateRelay.Proofs.Number.NearestDouble
import RebateRelay.Proofs.Number.SignedZero

/-!
# How doubles are rounded

An operation on doubles works out more of the exact result than a double has room for, shifts it to
fifty-three bits, and rounds it by two further bits: one for a half, and one for whether there is
anything beyond. `Represents` says what these bits stand for, and a shift keeps it. What comes out
is the nearest whole number of units in the last place, the even one in the middle between two.

`Rounds` is all that the reckoning with doubles needs to know of this: a rounded number is a double,
it does not pass another double, and it is off by a known part of itself.
-/

namespace RebateRelay.Number

open Float.Model (UnpackedFloat totalExponent)
open Float.Model.UnpackedFloat
open Binary64 (minExponent)

/-! ## The two further bits -/

/-- A mantissa and its two further bits stand for a number: one bit for a half, the other for
whether there is anything beyond. -/
def Represents (em : ExtendedMantissa) (x : ℚ) : Prop :=
  ∃ rest : ℚ, x = em.mantissa + (if em.roundBit then 1 / 2 else 0) + rest ∧
    0 ≤ rest ∧ rest < 1 / 2 ∧ (em.stickyBit = true ↔ rest ≠ 0)

/-- In the middle between two whole numbers, the even one is the nearest. -/
theorem isNearestEven_middle (m : ℕ) : IsNearestEven (m + m % 2) (m + 1 / 2) := by
  refine ⟨?_, fun _ => by omega⟩
  push_cast
  rw [add_sub_add_left_eq_sub]
  rcases Nat.mod_two_eq_zero_or_one m with even | odd
  · norm_num [even]
  · norm_num [odd]

namespace Represents

variable {em : ExtendedMantissa} {x : ℚ} {m : ℕ}

theorem exact (m : ℕ) : Represents (.ofMantissaAndAccuracy m .exact) m :=
  ⟨0, by simp [ExtendedMantissa.ofMantissaAndAccuracy], le_rfl, by norm_num,
    by simp [ExtendedMantissa.ofMantissaAndAccuracy]⟩

theorem shiftRightOne (h : Represents em x) : Represents em.shiftRightOne (x / 2) := by
  obtain ⟨rest, value, low, high, sticky⟩ := h
  have whole : (em.mantissa : ℚ) = 2 * (em.mantissa / 2 : ℕ) + (em.mantissa % 2 : ℕ) := by
    exact_mod_cast (Nat.div_add_mod em.mantissa 2).symm
  refine ⟨(if em.roundBit then 1 / 2 else 0) / 2 + rest / 2, ?value, ?low, ?high, ?sticky⟩
  case value =>
    rcases Nat.mod_two_eq_zero_or_one em.mantissa with even | odd
    · rw [value, whole]
      simp [ExtendedMantissa.shiftRightOne, even]
      ring
    · rw [value, whole]
      simp [ExtendedMantissa.shiftRightOne, odd]
      ring
  case low => split <;> linarith
  case high => split <;> linarith
  case sticky =>
    cases bit : em.roundBit
    · simp [ExtendedMantissa.shiftRightOne, bit, sticky]
    · have positive : 1 / 2 / 2 + rest / 2 ≠ 0 := by linarith
      simpa [ExtendedMantissa.shiftRightOne, bit] using positive

theorem shiftRight (h : Represents em x) (n : ℕ) : Represents (em >>> n) (x / 2 ^ n) := by
  change Represents (Nat.repeat ExtendedMantissa.shiftRightOne n em) _
  induction n with
  | zero => simpa [Nat.repeat] using h
  | succ n ih =>
      rw [pow_succ, ← div_div]
      exact ih.shiftRightOne

/-- The mantissa is rounded to the nearest whole number. -/
theorem isNearestEven (h : Represents em x) : IsNearestEven em.roundedMantissa x := by
  obtain ⟨rest, value, low, high, sticky⟩ := h
  obtain ⟨m, half, beyond⟩ := em
  cases half <;> cases beyond
  · have none : rest = 0 := by simpa using sticky
    refine .of_eq ?_
    change x = (m : ℚ)
    simpa [none] using value
  · refine .of_abs_lt ?_
    change |(m : ℚ) - x| < 1 / 2
    have some : rest ≠ 0 := by simpa using sticky
    have value : x = m + rest := by simpa using value
    rw [value, sub_add_cancel_left, abs_neg, abs_of_nonneg low]
    exact high
  · have none : rest = 0 := by simpa using sticky
    have value : x = m + 1 / 2 := by simpa [none] using value
    rw [value]
    exact isNearestEven_middle m
  · refine .of_abs_lt ?_
    change |((m + 1 : ℕ) : ℚ) - x| < 1 / 2
    have some : rest ≠ 0 := by simpa using sticky
    have positive : 0 < rest := lt_of_le_of_ne low some.symm
    have value : (m + 1 : ℕ) - x = 1 / 2 - rest := by
      rw [value]
      push_cast
      simp
      ring
    rw [value, abs_of_pos (by linarith)]
    linarith

theorem mantissa_le (h : Represents em x) : (em.mantissa : ℚ) ≤ x := by
  obtain ⟨rest, rfl, low, -, -⟩ := h
  split <;> linarith

theorem lt_mantissa_add_one (h : Represents em x) : x < em.mantissa + 1 := by
  obtain ⟨rest, rfl, -, high, -⟩ := h
  split <;> linarith

end Represents

/-! ## Rounded numbers -/

/-- The number is that of a double, but for the bound on large ones. -/
def IsDouble (r : ℚ) : Prop := ∃ (m : ℕ) (e : ℤ), m < 2 ^ 53 ∧ minExponent ≤ e ∧ r = m * 2 ^ e

/-- A double is a whole number of units, or it has no leading bit among them. -/
theorem IsDouble.units {r : ℚ} (double : IsDouble r) (e : ℤ) :
    (∃ k : ℕ, r = k * 2 ^ e) ∨ minExponent < e ∧ r < 2 ^ 52 * 2 ^ e := by
  obtain ⟨m, f, bits, least, rfl⟩ := double
  rcases le_or_gt e f with coarse | fine
  · obtain ⟨k, rfl⟩ := Int.le.dest coarse
    refine Or.inl ⟨m * 2 ^ k, ?_⟩
    rw [zpow_add₀ (two_ne_zero : (2 : ℚ) ≠ 0), zpow_natCast]
    push_cast
    ring
  · have small := Binary64.mul_zpow_lt bits (show f ≤ e - 1 by omega)
    rw [zpow_sub_one₀ (two_ne_zero : (2 : ℚ) ≠ 0)] at small
    exact Or.inr ⟨by omega, by linarith⟩

/-- A number is rounded to a whole number of units: their size is chosen so that it has fifty-three
bits, or it is the least one. -/
structure RoundsAt (e : ℤ) (n : ℕ) (v : ℚ) : Prop where
  nearest : IsNearestEven n (v / 2 ^ e)
  least : minExponent ≤ e
  leading : e = minExponent ∨ 2 ^ 52 ≤ v / 2 ^ e
  bits : v / 2 ^ e < 2 ^ 53

/-- Half of the least unit. -/
def halfLeast : ℚ := 2 ^ (-1075 : ℤ)

theorem halfLeast_pos : 0 < halfLeast := by
  unfold halfLeast
  positivity

theorem halfLeast_le : halfLeast ≤ 1 / 2 ^ 100 := by
  have power : (1 : ℚ) / 2 ^ 100 = 2 ^ (-100 : ℤ) := by norm_num
  rw [power]
  exact zpow_le_zpow_right₀ one_le_two (by decide)

/-- A number is rounded to a double, but for the bound on large ones. -/
def Rounds (v q : ℚ) : Prop := ∃ e n, RoundsAt e n v ∧ q = n * 2 ^ e

namespace Rounds

variable {v q r : ℚ}

theorem nonneg (h : Rounds v q) : 0 ≤ q := by
  obtain ⟨e, n, -, rfl⟩ := h
  positivity

/-- A number that is not above a double is not rounded to one above it. -/
theorem le_of_le (h : Rounds v q) (double : IsDouble r) (le : v ≤ r) : q ≤ r := by
  obtain ⟨e, n, ⟨nearest, -, leading, -⟩, rfl⟩ := h
  have unit : (0 : ℚ) < 2 ^ e := by positivity
  obtain ⟨k, rfl⟩ | ⟨least, small⟩ := double.units e
  · have order := nearest.mono (.of_eq rfl) ((div_le_iff₀ unit).mpr le)
    gcongr
  · -- The number would be below its leading bit.
    have large : 2 ^ 52 ≤ v / 2 ^ e := leading.resolve_left least.ne'
    rw [le_div_iff₀ unit] at large
    linarith

/-- A number that is not below a double is not rounded to one below it. -/
theorem ge_of_ge (h : Rounds v q) (double : IsDouble r) (ge : r ≤ v) : r ≤ q := by
  obtain ⟨e, n, ⟨nearest, -, leading, -⟩, rfl⟩ := h
  have unit : (0 : ℚ) < 2 ^ e := by positivity
  obtain ⟨k, rfl⟩ | ⟨least, small⟩ := double.units e
  · have order := IsNearestEven.mono (.of_eq rfl) nearest ((le_div_iff₀ unit).mpr ge)
    gcongr
  · have large : 2 ^ 52 ≤ v / 2 ^ e := leading.resolve_left least.ne'
    have order : 2 ^ 52 ≤ n := IsNearestEven.mono (.of_eq (by norm_num)) nearest large
    have order : (2 : ℚ) ^ 52 ≤ n := by exact_mod_cast order
    exact small.le.trans (by gcongr)

/-- A double is not rounded. -/
theorem eq_of_isDouble (h : Rounds v q) (double : IsDouble v) : q = v :=
  le_antisymm (h.le_of_le double le_rfl) (h.ge_of_ge double le_rfl)

/-- Rounding adds or takes half a unit in the last of fifty-three bits, or half of the least
unit. -/
theorem abs_sub_le (h : Rounds v q) (nonneg : 0 ≤ v) : |q - v| ≤ v / 2 ^ 53 + halfLeast := by
  obtain ⟨e, n, ⟨nearest, -, leading, -⟩, rfl⟩ := h
  have unit : (0 : ℚ) < 2 ^ e := by positivity
  have near : |n * 2 ^ e - v| ≤ 2 ^ e / 2 := by
    have scaled : n * 2 ^ e - v = (n - v / 2 ^ e) * 2 ^ e := by field_simp
    rw [scaled, abs_mul, abs_of_pos unit]
    have half := nearest.near
    nlinarith
  refine near.trans ?_
  rcases leading with rfl | leading
  · have half : (2 : ℚ) ^ minExponent / 2 = halfLeast := by
      rw [div_eq_mul_inv, ← zpow_sub_one₀ (two_ne_zero : (2 : ℚ) ≠ 0)]
      rfl
    rw [half]
    have part : 0 ≤ v / 2 ^ 53 := by positivity
    linarith
  · rw [le_div_iff₀ unit] at leading
    have part : 2 ^ e / 2 ≤ v / 2 ^ 53 := by
      rw [div_le_div_iff₀ two_pos (by positivity)]
      linarith
    linarith [halfLeast_pos]

end Rounds

/-! ## Doubles taken apart and put together -/

namespace Binary64

/-- The parts of a finite number that has been unpacked. -/
def ofUnpacked? : UnpackedFloat → Option Binary64
  | .finite sign m e _ => some ⟨sign == .negative, m, e⟩
  | .zero sign => some ⟨sign == .negative, 0, minExponent⟩
  | .infinity _ | .notANumber => none

/-- A double is taken apart as its bits are. -/
theorem ofFloat?_eq (x : Float) : ofFloat? x = ofUnpacked? x.toModel.unpack := by
  change ofFloat? x = ofUnpacked? (UnpackedFloat.unpack .binary64 x.toModel.toBits.toBitVec)
  have word : x.toBits.toNat = x.toModel.toBits.toBitVec.toNat := rfl
  unfold ofFloat?
  rw [word]
  generalize x.toModel.toBits.toBitVec = b
  have exponent : (@unpackExponent .binary64 b).toNat = b.toNat / twoTo 52 % twoTo 11 := by
    unfold unpackExponent
    rw [BitVec.toNat_cast, BitVec.extractLsb_toNat, Nat.shiftRight_eq_div_pow]
    rfl
  have mantissa : (@unpackMantissa .binary64 b).toNat = b.toNat % twoTo 52 := by
    unfold unpackMantissa
    rw [BitVec.toNat_cast, BitVec.extractLsb_toNat, Nat.shiftRight_eq_div_pow, Nat.pow_zero,
      Nat.div_one]
    rfl
  have sign : (Sign.ofBitVec (@unpackSign .binary64 b) == .negative) =
      decide (twoTo 63 ≤ b.toNat) := by
    by_cases low : b.toNat < twoTo 63
    · rw [unpackSign_eq_zero.mpr low, decide_eq_false (not_le.mpr low)]
      rfl
    · rw [Sign.ofBitVec, if_neg (mt unpackSign_eq_zero.mp low), decide_eq_true (not_lt.mp low)]
      rfl
  have full : @unpackExponent .binary64 b = -1#11 ↔ b.toNat / twoTo 52 % twoTo 11 = 2047 := by
    rw [← exponent, ← BitVec.toNat_inj]
    rfl
  have empty : @unpackExponent .binary64 b = 0#11 ↔ b.toNat / twoTo 52 % twoTo 11 = 0 := by
    rw [← exponent, ← BitVec.toNat_inj]
    rfl
  have none : @unpackMantissa .binary64 b = 0#52 ↔ b.toNat % twoTo 52 = 0 := by
    rw [← mantissa, ← BitVec.toNat_inj]
    rfl
  have leading : (1#1 ++ @unpackMantissa .binary64 b : BitVec 53).toNat =
      twoTo 52 + b.toNat % twoTo 52 := by
    have small : b.toNat % twoTo 52 < 2 ^ 52 := Nat.mod_lt _ (twoTo_pos 52)
    rw [BitVec.toNat_append, mantissa, ← Nat.shiftLeft_add_eq_or_of_lt small]
    rfl
  unfold UnpackedFloat.unpack
  simp only
  by_cases special : b.toNat / twoTo 52 % twoTo 11 = 2047
  · rw [if_pos special, if_pos (full.mpr special)]
    split <;> rfl
  · rw [if_neg special, if_neg (mt full.mp special)]
    by_cases subnormal : b.toNat / twoTo 52 % twoTo 11 = 0
    · rw [if_pos subnormal, if_pos (empty.mpr subnormal)]
      split
      case isTrue zero =>
        rw [none.mp zero, ← sign]
        rfl
      case isFalse =>
        simp only [ofUnpacked?, sign, mantissa, exponent, subnormal]
        rfl
    · rw [if_neg subnormal, if_neg (mt empty.mp subnormal)]
      simp only [ofUnpacked?, sign, exponent, Option.some.injEq, mk.injEq, true_and]
      exact ⟨leading.symm, rfl⟩

end Binary64

/-- A mantissa and an exponent are as a double has them, but for the bound on large ones: the
leading bit is set unless the exponent is the least one. -/
structure IsCanonical (m : ℕ) (e : ℤ) : Prop where
  bits : m < 2 ^ 53
  least : minExponent ≤ e
  leading : 2 ^ 52 ≤ m ∨ e = minExponent

theorem isCanonical_of_unpack {x : Float} {s : Sign} {m : ℕ} {e : ℤ} {positive : 0 < m}
    (unpacked : x.toModel.unpack = .finite s m e positive) : IsCanonical m e := by
  have taken : Binary64.ofFloat? x = some ⟨s == .negative, m, e⟩ := by
    rw [Binary64.ofFloat?_eq, unpacked]
    rfl
  obtain ⟨bits, least, leading⟩ := Binary64.bounds_of_ofFloat? taken
  exact ⟨bits, least, leading⟩

theorem finite_congr {s : Sign} {m m' : ℕ} {e e' : ℤ} {positive : 0 < m} {positive' : 0 < m'}
    (mantissa : m' = m) (exponent : e' = e) :
    UnpackedFloat.finite s m' e' positive' = .finite s m e positive := by
  subst mantissa exponent
  rfl

/-- The leading bit is in front of the others. -/
theorem toNat_append_leading {m : ℕ} (leading : 2 ^ 52 ≤ m) (bits : m < 2 ^ 53) :
    (1#1 ++ BitVec.ofNat 52 m : BitVec 53).toNat = m := by
  rw [BitVec.toNat_append, ← Nat.shiftLeft_add_eq_or_of_lt (BitVec.isLt _), BitVec.toNat_ofNat]
  simp
  omega

/-- What is put together comes apart again, if it is not too large. -/
theorem unpack_pack {s : Sign} {m : ℕ} {e : ℤ} {positive : 0 < m} (canonical : IsCanonical m e)
    (low : e ≤ 971) :
    (Float.Model.pack (.finite s m e positive)).unpack = .finite s m e positive := by
  obtain ⟨bits, least, leading⟩ := canonical
  unfold minExponent at least leading
  have bias : (Float.Model.Format.binary64.exponentBias : ℤ) = 1023 := rfl
  have width : (Float.Model.Format.binary64.mantissaBitsWithoutImplicit : ℤ) = 52 := rfl
  obtain ⟨field, biased⟩ := Int.eq_ofNat_of_zero_le (show 0 ≤ e + 1023 + 52 by omega)
  have range : ¬2 ^ Float.Model.Format.binary64.exponentBits ≤ field + 1 := by
    change ¬2 ^ 11 ≤ _
    omega
  have kept : (BitVec.ofNat 11 field).toNat = field := by
    rw [BitVec.toNat_ofNat]
    omega
  have notFull : BitVec.ofNat 11 field ≠ -1#11 := by
    intro full
    have all := congrArg BitVec.toNat full
    rw [kept] at all
    have largest : field = 2047 := all
    omega
  change UnpackedFloat.unpack .binary64 (UnpackedFloat.pack .binary64 (.finite s m e positive)) = _
  simp only [UnpackedFloat.pack, bias, width, biased, Int.toNat_natCast, if_neg range]
  split_ifs with normal
  · have leading : 2 ^ 52 ≤ m := by
      have log : m.log2 + 1 = 53 := normal
      exact (Nat.le_log2 positive.ne').mp (by omega)
    have notEmpty : BitVec.ofNat 11 field ≠ 0#11 := by
      intro empty
      have none := congrArg BitVec.toNat empty
      rw [kept] at none
      have least : field = 0 := none
      omega
    simp only [UnpackedFloat.unpack, unpackExponent_packComponents, unpackMantissa_packComponents,
      unpackSign_packComponents, Sign.ofBitVec_toBitVec, if_neg notFull, if_neg notEmpty]
    refine finite_congr (toNat_append_leading leading bits) ?_
    rw [kept, bias, width]
    omega
  · have below : m < 2 ^ 52 := by
      have log : m.log2 + 1 ≠ 53 := normal
      have less := (Nat.log2_lt positive.ne').mpr bits
      exact (Nat.log2_lt positive.ne').mp (by omega)
    have kept' : (BitVec.ofNat 52 m).toNat = m := by
      rw [BitVec.toNat_ofNat, Nat.mod_eq_of_lt below]
    have notNone : BitVec.ofNat 52 m ≠ 0#52 := by
      intro none
      have none := congrArg BitVec.toNat none
      rw [kept'] at none
      exact positive.ne' none
    simp only [UnpackedFloat.unpack, unpackExponent_packComponents, unpackMantissa_packComponents,
      unpackSign_packComponents, Sign.ofBitVec_toBitVec]
    rw [if_neg (by decide), if_pos trivial, dif_neg notNone]
    refine finite_congr kept' ?_
    rw [bias, width]
    have least : e = -1074 := leading.resolve_left (not_le.mpr below)
    simp [least]

/-! ## Rounding as it is done -/

/-- An unpacked number stands for a number that is not below zero, and it is as a double has it but
for the bound on large ones. -/
inductive StandsFor : UnpackedFloat → ℚ → Prop
  | zero (sign : Sign) : StandsFor (.zero sign) 0
  | finite {m : ℕ} {e : ℤ} (positive : 0 < m) (canonical : IsCanonical m e) :
    StandsFor (.finite .positive m e positive) (m * 2 ^ e)

/-- The exponent at which a mantissa has fifty-three bits, or the least one. -/
def target (m : ℕ) (e : ℤ) : ℤ := max (m.log2 + 1 + e - 53) minExponent

theorem shiftToTargetExponent_eq {m : ℕ} {e : ℤ} (acc : Accuracy) (low : e ≤ target m e) :
    shiftToTargetExponent .binary64 m e acc =
      (ExtendedMantissa.ofMantissaAndAccuracy m acc >>> (target m e - e).toNat, target m e) := by
  have same : Float.Model.Format.binary64.targetExponent (totalExponent m e) = target m e := rfl
  simp only [shiftToTargetExponent, shiftToExponent, same]
  rw [Int.toNat_of_nonneg (by omega)]
  congr 1
  omega

/-- A number that begins with a mantissa is rounded at the exponent which that mantissa should
have. -/
theorem roundsAt_target {m : ℕ} {e : ℤ} {v : ℚ} (positive : 0 < m) (least : m * 2 ^ e ≤ v)
    (greatest : v < (m + 1) * 2 ^ e) {n : ℕ} (nearest : IsNearestEven n (v / 2 ^ target m e)) :
    RoundsAt (target m e) n v := by
  have unit : (0 : ℚ) < 2 ^ target m e := by positivity
  have first : (2 ^ m.log2 : ℚ) ≤ m := by exact_mod_cast Nat.log2_self_le positive.ne'
  have last : (m + 1 : ℚ) ≤ 2 ^ (m.log2 + 1) := by exact_mod_cast Nat.lt_log2_self
  refine ⟨nearest, le_max_right _ _, ?leading, ?bits⟩
  case leading =>
    rcases max_choice (m.log2 + 1 + e - 53) minExponent with shifted | subnormal
    · have exponent : target m e = m.log2 + e - 52 := by
        rw [target, shifted]
        ring
      refine Or.inr ((le_div_iff₀ unit).mpr (le_trans ?_ least))
      have units : (2 : ℚ) ^ 52 * 2 ^ target m e = 2 ^ m.log2 * 2 ^ e := by
        rw [exponent, ← zpow_natCast, ← zpow_natCast, ← zpow_add₀ two_ne_zero,
          ← zpow_add₀ two_ne_zero]
        congr 1
        push_cast
        ring
      rw [units]
      gcongr
    · exact Or.inl subnormal
  case bits =>
    rw [div_lt_iff₀ unit]
    have order : (m.log2 + 1 + e : ℤ) ≤ 53 + target m e := by
      unfold target
      omega
    calc v < (m + 1) * 2 ^ e := greatest
      _ ≤ 2 ^ (m.log2 + 1) * 2 ^ e := by gcongr
      _ = 2 ^ (m.log2 + 1 + e : ℤ) := by
        rw [zpow_add₀ two_ne_zero]
        norm_cast
      _ ≤ 2 ^ (53 + target m e) := zpow_le_zpow_right₀ one_le_two order
      _ = 2 ^ 53 * 2 ^ target m e := by
        rw [zpow_add₀ two_ne_zero]
        norm_cast

/-- A number that has been rounded to fifty-three bits is in its place. -/
theorem target_of_roundsAt {n : ℕ} {e : ℤ} {v : ℚ} (h : RoundsAt e n v) (bits : n < 2 ^ 53) :
    target n e = e := by
  have least := h.least
  have few : n.log2 ≤ 52 := by
    rcases Nat.eq_zero_or_pos n with rfl | positive
    · decide
    · exact Nat.le_of_lt_succ ((Nat.log2_lt positive.ne').mpr bits)
  unfold target
  rcases h.leading with subnormal | leading
  · omega
  · have leading : 2 ^ 52 ≤ n := IsNearestEven.mono (.of_eq (by norm_num)) h.nearest leading
    have many : 52 ≤ n.log2 := (Nat.le_log2 (by omega)).mpr leading
    omega

/-- Rounding may come to the next power of two, and that is one place further. -/
theorem target_two_pow {e : ℤ} (least : minExponent ≤ e) : target (2 ^ 53) e = e + 1 := by
  have log : (2 ^ 53 : ℕ).log2 = 53 := Nat.log2_two_pow
  unfold target
  omega

/-- What has been rounded is put in its place. -/
theorem standsFor_of_roundsAt {n : ℕ} {e : ℤ} {v : ℚ} (h : RoundsAt e n v) :
    let placed := shiftToTargetExponent .binary64 n e .exact
    StandsFor (if zero : placed.1.mantissa = 0 then .zero .positive
      else .finite .positive placed.1.mantissa placed.2 (Nat.pos_of_ne_zero zero)) (n * 2 ^ e) := by
  have most : n ≤ 2 ^ 53 := h.nearest.mono (.of_eq (by norm_num)) h.bits.le
  rcases Nat.lt_or_eq_of_le most with bits | rfl
  · have same := target_of_roundsAt h bits
    rw [shiftToTargetExponent_eq .exact same.ge, same, sub_self]
    change StandsFor (if zero : n = 0 then .zero .positive
      else .finite .positive n e (Nat.pos_of_ne_zero zero)) (n * 2 ^ e)
    split_ifs with zero
    · rw [zero, Nat.cast_zero, zero_mul]
      exact .zero _
    · refine .finite _ ⟨bits, h.least, ?_⟩
      refine h.leading.symm.imp_left fun leading => ?_
      exact IsNearestEven.mono (.of_eq (by norm_num)) h.nearest leading
  · have next := target_two_pow h.least
    rw [shiftToTargetExponent_eq .exact (by omega), next, add_sub_cancel_left]
    have value : ((2 ^ 53 : ℕ) : ℚ) * 2 ^ e = (2 ^ 52 : ℕ) * 2 ^ (e + 1) := by
      rw [zpow_add_one₀ two_ne_zero]
      push_cast
      ring
    have canonical : IsCanonical (2 ^ 52) (e + 1) :=
      ⟨by norm_num, h.least.trans (by omega), Or.inl le_rfl⟩
    have placed : StandsFor (.finite .positive (2 ^ 52) (e + 1) (by norm_num)) _ :=
      .finite (by norm_num) canonical
    rw [value]
    exact placed

/-- A number that begins with a mantissa, and whose further bits are known, is rounded to a
double. -/
theorem exists_roundWithAccuracy {m : ℕ} {e : ℤ} {acc : Accuracy} {v : ℚ} (positive : 0 < m)
    (low : e ≤ target m e) (h : Represents (.ofMantissaAndAccuracy m acc) (v / 2 ^ e)) :
    ∃ q, Rounds v q ∧ StandsFor (roundWithAccuracy .binary64 .positive m e acc) q := by
  have unit : (0 : ℚ) < 2 ^ e := by positivity
  have mantissa : (ExtendedMantissa.ofMantissaAndAccuracy m acc).mantissa = m := by
    rcases acc with _ | _ | _ | _ <;> rfl
  have least := (le_div_iff₀ unit).mp h.mantissa_le
  have greatest := (div_lt_iff₀ unit).mp h.lt_mantissa_add_one
  rw [mantissa] at least greatest
  have shifted := h.shiftRight (target m e - e).toNat
  have units : v / 2 ^ e / 2 ^ (target m e - e).toNat = v / 2 ^ target m e := by
    rw [div_div, ← zpow_natCast, ← zpow_add₀ two_ne_zero, Int.toNat_of_nonneg (by omega)]
    congr 2
    ring
  rw [units] at shifted
  have rounds := roundsAt_target positive least greatest shifted.isNearestEven
  refine ⟨_, ⟨_, _, rounds, rfl⟩, ?_⟩
  unfold roundWithAccuracy
  rw [shiftToTargetExponent_eq acc low]
  exact standsFor_of_roundsAt rounds

end RebateRelay.Number
