import RebateRelay.Proofs.Number.DoubleRounding

/-!
# Reckoning with doubles

A double that is not below zero stands for a number, and so does what comes of two of them when they
are added, subtracted, multiplied or divided: it is the exact result, rounded. It is assumed that
the result is not larger than any double, and for a difference that it is not below zero. Whole
numbers are rounded as well, and those of fifty-three bits are doubles as they are. Doubles compare
as what they stand for.
-/

namespace RebateRelay.Number

open Float.Model (UnpackedFloat totalExponent)
open Float.Model.UnpackedFloat
open Binary64 (minExponent)

/-! ## What doubles stand for -/

/-- A double is finite and not below zero, and this is its number. -/
def Denotes (x : Float) (q : ℚ) : Prop := StandsFor x.toModel.unpack q

namespace StandsFor

variable {u : UnpackedFloat} {q r : ℚ}

theorem nonneg (h : StandsFor u q) : 0 ≤ q := by
  cases h with
  | zero => exact le_rfl
  | finite => positivity

theorem isDouble (h : StandsFor u q) : IsDouble q := by
  cases h with
  | zero => exact ⟨0, minExponent, by norm_num, le_rfl, by simp⟩
  | finite positive canonical => exact ⟨_, _, canonical.bits, canonical.least, rfl⟩

theorem unique (h : StandsFor u q) (h' : StandsFor u r) : q = r := by
  cases h <;> cases h' <;> rfl

/-- A double is rounded to itself. -/
theorem rounds (h : StandsFor u q) : Rounds q q := by
  cases h with
  | zero =>
      refine ⟨minExponent, 0, ⟨.of_eq ?_, le_rfl, Or.inl rfl, ?_⟩, by simp⟩
      · simp
      · norm_num
  | @finite m e positive canonical =>
      have unit : (2 : ℚ) ^ e ≠ 0 := by positivity
      have units : (m : ℚ) * 2 ^ e / 2 ^ e = m := mul_div_cancel_right₀ _ unit
      refine ⟨e, m, ⟨.of_eq units, canonical.least, ?leading, ?bits⟩, rfl⟩
      case leading =>
        rw [units]
        exact canonical.leading.symm.imp_right fun leading => by exact_mod_cast leading
      case bits =>
        rw [units]
        exact_mod_cast canonical.bits

/-- What is not too large is packed as it is. -/
theorem pack (h : StandsFor u q) (small : q ≤ 2 ^ 100) :
    StandsFor (Float.Model.pack u).unpack q := by
  cases h with
  | zero sign =>
      obtain ⟨sign, packed⟩ := isZero_pack sign
      exact packed ▸ .zero sign
  | @finite m e positive canonical =>
      have low : e ≤ 971 := by
        by_contra large
        have leading : 2 ^ 52 ≤ m := canonical.leading.resolve_right (by unfold minExponent; omega)
        have least := Binary64.le_mul_zpow leading (show 100 ≤ e by omega)
        have power : (2 : ℚ) ^ 100 < 2 ^ 52 * 2 ^ (100 : ℤ) := by norm_num
        linarith
      rw [unpack_pack canonical low]
      exact .finite positive canonical

end StandsFor

/-! ## Rounding whole numbers of units -/

/-- More bits and a smaller unit do not change where a mantissa is put. -/
theorem target_shiftLeft {m : ℕ} (positive : 0 < m) (e : ℤ) (k : ℕ) :
    target (m <<< k) (e - k) = target m e := by
  have log : (m <<< k).log2 = m.log2 + k := by
    rw [Nat.shiftLeft_eq, Nat.log2_eq_log_two, Nat.log2_eq_log_two]
    induction k with
    | zero => simp
    | succ k ih =>
        have nonzero : m * 2 ^ k ≠ 0 := by positivity
        rw [pow_succ, ← mul_assoc, Nat.log_mul_base one_lt_two nonzero, ih, add_assoc]
  unfold target
  omega

theorem shiftLeft_mul_zpow (m : ℕ) (e : ℤ) (k : ℕ) :
    ((m <<< k : ℕ) : ℚ) * 2 ^ (e - k) = m * 2 ^ e := by
  rw [Nat.shiftLeft_eq, zpow_sub₀ two_ne_zero, zpow_natCast]
  push_cast
  field_simp

/-- A whole number of units is rounded to a double. -/
theorem exists_round {m : ℕ} (positive : 0 < m) (e : ℤ) :
    ∃ q, Rounds (m * 2 ^ e) q ∧ StandsFor (UnpackedFloat.round .binary64 .positive m e) q := by
  set k := (e - target m e).toNat with shift
  have low : e - k ≤ target (m <<< k) (e - k) := by
    rw [target_shiftLeft positive]
    omega
  have unit : (2 : ℚ) ^ (e - k) ≠ 0 := by positivity
  have units : (m : ℚ) * 2 ^ e / 2 ^ (e - k) = (m <<< k : ℕ) := by
    rw [← shiftLeft_mul_zpow m e k, mul_div_cancel_right₀ _ unit]
  have positive' : 0 < m <<< k := by
    rw [Nat.shiftLeft_eq]
    positivity
  exact exists_roundWithAccuracy positive' low (units ▸ .exact _)

/-- A whole number of units that is not below zero is rounded to a double. -/
theorem exists_normalize {m : ℤ} (nonneg : 0 ≤ m) (e : ℤ) :
    ∃ q, Rounds (m * 2 ^ e) q ∧
      StandsFor (UnpackedFloat.normalize .binary64 m e .positive) q := by
  obtain ⟨n, rfl⟩ := Int.eq_ofNat_of_zero_le nonneg
  rcases Nat.eq_zero_or_pos n with rfl | positive
  · refine ⟨0, ?_, .zero .positive⟩
    simpa using (StandsFor.zero .positive).rounds
  · have compare : compare (n : ℤ) 0 = .gt := by
      rw [Int.compare_eq_gt]
      omega
    rw [UnpackedFloat.normalize, compare]
    exact exists_round positive e

/-! ## Operations -/

section

variable {x y : Float} {a b : ℚ}

/-- What an operation comes to is packed, if it is not too large. -/
theorem exists_denotes {u : UnpackedFloat} {v : ℚ} (rounded : ∃ q, Rounds v q ∧ StandsFor u q)
    (small : v ≤ 2 ^ 100) : ∃ q, Rounds v q ∧ Denotes (.ofModel (.pack u)) q := by
  obtain ⟨q, rounds, stands⟩ := rounded
  have bound : IsDouble (2 ^ 100) := ⟨1, 100, by norm_num, by decide, by norm_num⟩
  exact ⟨q, rounds, stands.pack (rounds.le_of_le bound small)⟩

/-- A mantissa is given a smaller unit. -/
theorem decreaseExponent_value (m : ℕ) {e f : ℤ} (fine : f ≤ e) :
    ((decreaseExponent m e f).1 : ℚ) * 2 ^ f = m * 2 ^ e := by
  have units := shiftLeft_mul_zpow m e (e - f).toNat
  rw [Int.toNat_of_nonneg (by omega), sub_sub_cancel] at units
  exact units

theorem Denotes.add (h : Denotes x a) (h' : Denotes y b) (small : a + b ≤ 2 ^ 100) :
    ∃ q, Rounds (a + b) q ∧ Denotes (x + y) q := by
  refine exists_denotes (u := .add .binary64 x.toModel.unpack y.toModel.unpack) ?_ small
  unfold Denotes at h h'
  generalize x.toModel.unpack = u at h
  generalize y.toModel.unpack = w at h'
  cases h with
  | zero s =>
      rw [zero_add]
      refine ⟨b, h'.rounds, ?_⟩
      cases h' with
      | zero s' => cases s <;> cases s' <;> exact .zero _
      | finite positive canonical => exact .finite positive canonical
  | @finite m e positive canonical =>
      cases h' with
      | zero s' =>
          rw [add_zero]
          exact ⟨_, (StandsFor.finite positive canonical).rounds, .finite positive canonical⟩
      | @finite m' e' positive' canonical' =>
          have sum : (m : ℚ) * 2 ^ e + m' * 2 ^ e' =
              (((decreaseExponent m e (min e e')).1 + (decreaseExponent m' e' (min e e')).1 : ℤ) :
                ℚ) * 2 ^ min e e' := by
            rw [← decreaseExponent_value m (min_le_left e e'),
              ← decreaseExponent_value m' (min_le_right e e')]
            push_cast
            ring
          rw [sum]
          exact exists_normalize (by positivity) _

theorem Denotes.sub (h : Denotes x a) (h' : Denotes y b) (order : b ≤ a) (small : a ≤ 2 ^ 100) :
    ∃ q, Rounds (a - b) q ∧ Denotes (x - y) q := by
  have least : a - b ≤ 2 ^ 100 := by linarith [StandsFor.nonneg h']
  refine exists_denotes (u := .sub .binary64 x.toModel.unpack y.toModel.unpack) ?_ least
  unfold Denotes at h h'
  generalize x.toModel.unpack = u at h
  generalize y.toModel.unpack = w at h'
  cases h' with
  | zero s' =>
      rw [sub_zero]
      refine ⟨a, h.rounds, ?_⟩
      cases h with
      | zero s => cases s <;> cases s' <;> exact .zero _
      | finite positive canonical => exact .finite positive canonical
  | @finite m' e' positive' canonical' =>
      cases h with
      | zero s =>
          have above : (0 : ℚ) < m' * 2 ^ e' := by positivity
          exact absurd order (not_le.mpr above)
      | @finite m e positive canonical =>
          have difference : (m : ℚ) * 2 ^ e - m' * 2 ^ e' =
              (((decreaseExponent m e (min e e')).1 - (decreaseExponent m' e' (min e e')).1 : ℤ) :
                ℚ) * 2 ^ min e e' := by
            rw [← decreaseExponent_value m (min_le_left e e'),
              ← decreaseExponent_value m' (min_le_right e e')]
            push_cast
            ring
          have unit : (0 : ℚ) < 2 ^ min e e' := by positivity
          have nonneg := sub_nonneg.mpr order
          rw [difference, mul_nonneg_iff_of_pos_right unit] at nonneg
          rw [difference]
          exact exists_normalize (by exact_mod_cast nonneg) _

/-- A product of two numbers is off by what each is, times the other. -/
theorem abs_mul_sub_mul_le {a a' b b' d d' m m' : ℚ} (near : |a - a'| ≤ d) (near' : |b - b'| ≤ d')
    (most : |b| ≤ m) (most' : |a'| ≤ m') : |a * b - a' * b'| ≤ d * m + m' * d' := by
  have parts : a * b - a' * b' = (a - a') * b + a' * (b - b') := by ring
  rw [parts]
  refine (abs_add_le _ _).trans ?_
  rw [abs_mul, abs_mul]
  have bound := (abs_nonneg _).trans near
  have bound' := (abs_nonneg _).trans most'
  gcongr

/-- A product of two mantissas has bits enough, unless its unit is below the least one. -/
theorem le_target_mul {m m' : ℕ} {e e' : ℤ} (positive : 0 < m) (positive' : 0 < m')
    (canonical : IsCanonical m e) (canonical' : IsCanonical m' e') :
    e + e' ≤ target (m * m') (e + e') := by
  have product : 0 < m * m' := Nat.mul_pos positive positive'
  have wide (leading : 2 ^ 52 ≤ m * m') : e + e' ≤ target (m * m') (e + e') := by
    have log := (Nat.le_log2 product.ne').mpr leading
    unfold target
    omega
  rcases canonical.leading with leading | subnormal
  · exact wide (leading.trans (Nat.le_mul_of_pos_right m positive'))
  · rcases canonical'.leading with leading' | subnormal'
    · exact wide (leading'.trans (Nat.le_mul_of_pos_left m' positive))
    · unfold target minExponent at *
      omega

theorem Denotes.mul (h : Denotes x a) (h' : Denotes y b) (small : a * b ≤ 2 ^ 100) :
    ∃ q, Rounds (a * b) q ∧ Denotes (x * y) q := by
  refine exists_denotes (u := .mul .binary64 x.toModel.unpack y.toModel.unpack) ?_ small
  unfold Denotes at h h'
  generalize x.toModel.unpack = u at h
  generalize y.toModel.unpack = w at h'
  cases h with
  | zero s =>
      rw [zero_mul]
      refine ⟨0, (StandsFor.zero s).rounds, ?_⟩
      cases h' <;> exact .zero _
  | @finite m e positive canonical =>
      cases h' with
      | zero s' =>
          rw [mul_zero]
          exact ⟨0, (StandsFor.zero s').rounds, .zero _⟩
      | @finite m' e' positive' canonical' =>
          have low : e + e' ≤ target (m * m') (e + e') :=
            le_target_mul positive positive' canonical canonical'
          have units : (m : ℚ) * 2 ^ e * (m' * 2 ^ e') / 2 ^ (e + e') = (m * m' : ℕ) := by
            rw [zpow_add₀ two_ne_zero]
            push_cast
            field_simp
          exact exists_roundWithAccuracy (Nat.mul_pos positive positive') low (units ▸ .exact _)

/-- What is left of a division tells where the quotient lies between two whole numbers. -/
theorem represents_div (n : ℕ) {d : ℕ} (positive : 0 < d) :
    Represents (.ofMantissaAndAccuracy (n / d) (accuracyOfFraction (n % d) d)) (n / d) := by
  have below : (0 : ℚ) < d := by exact_mod_cast positive
  have less : ((n % d : ℕ) : ℚ) < d := by exact_mod_cast Nat.mod_lt n positive
  have whole : (n : ℚ) / d = (n / d : ℕ) + (n % d : ℕ) / d := by
    rw [add_div' _ _ _ below.ne']
    congr 1
    exact_mod_cast (Nat.div_add_mod' n d).symm
  rw [whole]
  generalize n / d = q
  generalize n % d = r at less
  unfold accuracyOfFraction
  split_ifs with none
  · subst none
    exact ⟨0, by simp [ExtendedMantissa.ofMantissaAndAccuracy], le_rfl, by norm_num,
      by simp [ExtendedMantissa.ofMantissaAndAccuracy]⟩
  · have some : (0 : ℚ) < r / d := div_pos (by exact_mod_cast Nat.pos_of_ne_zero none) below
    rcases lt_trichotomy (2 * r) d with low | half | high
    · rw [Nat.compare_eq_lt.mpr low]
      have low : (2 * r : ℚ) < d := by exact_mod_cast low
      refine ⟨r / d, ?_, some.le, ?_, ?_⟩
      · simp [ExtendedMantissa.ofMantissaAndAccuracy]
      · rw [div_lt_div_iff₀ below two_pos]
        linarith
      · simpa [ExtendedMantissa.ofMantissaAndAccuracy] using some.ne'
    · rw [Nat.compare_eq_eq.mpr half]
      have half : (2 * r : ℚ) = d := by exact_mod_cast half
      have middle : (r : ℚ) / d = 1 / 2 := by
        rw [div_eq_div_iff below.ne' two_ne_zero]
        linarith
      refine ⟨0, ?_, le_rfl, by norm_num, ?_⟩
      · simp [ExtendedMantissa.ofMantissaAndAccuracy, middle]
      · simp [ExtendedMantissa.ofMantissaAndAccuracy]
    · rw [Nat.compare_eq_gt.mpr high]
      have high : (d : ℚ) < 2 * r := by exact_mod_cast high
      have above : (1 : ℚ) / 2 < r / d := by
        rw [div_lt_div_iff₀ two_pos below]
        linarith
      have one : (r : ℚ) / d < 1 := (div_lt_one below).mpr less
      refine ⟨r / d - 1 / 2, ?_, by linarith, by linarith, ?_⟩
      · simp [ExtendedMantissa.ofMantissaAndAccuracy]
      · simpa [ExtendedMantissa.ofMantissaAndAccuracy] using (sub_pos.mpr above).ne'

/-- The quotient of two mantissas with their exponents is bounded by their leading bits. -/
theorem quotient_lt {m m' : ℕ} {e f : ℤ} (positive' : 0 < m') :
    (m * 2 ^ e : ℚ) / (m' * 2 ^ f) < 2 ^ (m.log2 + e - (m'.log2 + f) + 1) := by
  have last : (m : ℚ) < 2 ^ (m.log2 + 1) := by exact_mod_cast Nat.lt_log2_self
  have first : (2 ^ m'.log2 : ℚ) ≤ m' := by exact_mod_cast Nat.log2_self_le positive'.ne'
  rw [div_lt_iff₀ (by positivity)]
  calc (m * 2 ^ e : ℚ) < 2 ^ (m.log2 + 1) * 2 ^ e := by gcongr
    _ = 2 ^ (m.log2 + e - (m'.log2 + f) + 1) * (2 ^ m'.log2 * 2 ^ f) := by
      rw [← zpow_natCast, ← zpow_natCast, ← zpow_add₀ two_ne_zero, ← zpow_add₀ two_ne_zero,
        ← zpow_add₀ two_ne_zero]
      congr 1
      push_cast
      ring
    _ ≤ 2 ^ (m.log2 + e - (m'.log2 + f) + 1) * (m' * 2 ^ f) := by gcongr

/-- The dividend is shifted so far that the quotient has bits enough, if it is not very small. -/
theorem exists_divCore {m m' : ℕ} {e e' : ℤ} (positive : 0 < m) (positive' : 0 < m')
    (large : 1 / 2 ^ 100 ≤ (m * 2 ^ e : ℚ) / (m' * 2 ^ e')) :
    ∃ (n : ℕ) (f : ℤ),
      divCore .binary64 m e m' e' = (n / m', f, accuracyOfFraction (n % m') m') ∧
        2 ^ 52 * m' ≤ n ∧ (n : ℚ) * 2 ^ f = m * 2 ^ (e - e') := by
  obtain ⟨span, span_eq⟩ : ∃ span : ℤ, span = m.log2 + e - (m'.log2 + e') := ⟨_, rfl⟩
  have first : 2 ^ m.log2 ≤ m := Nat.log2_self_le positive.ne'
  have last' : m' < 2 ^ (m'.log2 + 1) := Nat.lt_log2_self
  have normal : -100 ≤ span := by
    have least : (1 : ℚ) / 2 ^ 100 = 2 ^ (-100 : ℤ) := by norm_num
    rw [least] at large
    have below := large.trans_lt (quotient_lt (m := m) (e := e) (f := e') positive')
    have order := (zpow_lt_zpow_iff_right₀ (one_lt_two : (1 : ℚ) < 2)).mp below
    omega
  have total : totalExponent m e - totalExponent m' e' = span := by
    unfold totalExponent
    omega
  have target : Float.Model.Format.binary64.targetExponent span = span - 53 := by
    have bits : (Float.Model.Format.binary64.mantissaBits : ℤ) = 53 := rfl
    have minimum : Float.Model.Format.binary64.minExponent = -1074 := rfl
    rw [Float.Model.Format.targetExponent, bits, minimum]
    omega
  obtain ⟨f, f_eq⟩ : ∃ f, f = min (e - e') (span - 53) := ⟨_, rfl⟩
  obtain ⟨k, k_eq⟩ : ∃ k, k = (e - e' - f).toNat := ⟨_, rfl⟩
  refine ⟨m <<< k, f, ?core, ?wide, ?units⟩
  case core => simp only [divCore, total, target, k_eq, f_eq]
  case units =>
    rw [← shiftLeft_mul_zpow m (e - e') k]
    congr 2
    omega
  case wide =>
    have shift : 53 + m'.log2 ≤ m.log2 + k := by omega
    calc 2 ^ 52 * m' ≤ 2 ^ 52 * 2 ^ (m'.log2 + 1) := by gcongr
      _ = 2 ^ (53 + m'.log2) := by ring
      _ ≤ 2 ^ (m.log2 + k) := Nat.pow_le_pow_right two_pos shift
      _ = 2 ^ m.log2 * 2 ^ k := pow_add _ _ _
      _ ≤ m * 2 ^ k := by gcongr
      _ = m <<< k := (Nat.shiftLeft_eq _ _).symm

/-- A quotient is rounded, if it is none or not very small. -/
theorem Denotes.div (h : Denotes x a) (h' : Denotes y b) (positive : 0 < b)
    (large : a = 0 ∨ 1 / 2 ^ 100 ≤ a / b) (small : a / b ≤ 2 ^ 100) :
    ∃ q, Rounds (a / b) q ∧ Denotes (x / y) q := by
  refine exists_denotes (u := .div .binary64 x.toModel.unpack y.toModel.unpack) ?_ small
  unfold Denotes at h h'
  generalize x.toModel.unpack = u at h
  generalize y.toModel.unpack = w at h'
  cases h' with
  | zero => exact absurd positive (lt_irrefl 0)
  | @finite m' e' positive' canonical' =>
      cases h with
      | zero s =>
          rw [zero_div]
          exact ⟨0, (StandsFor.zero s).rounds, .zero _⟩
      | @finite m e positive canonical =>
          have some : (0 : ℚ) < m * 2 ^ e := by positivity
          replace large := large.resolve_left some.ne'
          obtain ⟨n, f, core, wide, units⟩ := exists_divCore positive positive' large
          have leading : 2 ^ 52 ≤ n / m' := (Nat.le_div_iff_mul_le positive').mpr wide
          have low : f ≤ target (n / m') f := by
            have log := (Nat.le_log2 (by omega)).mpr leading
            unfold target
            omega
          have quotient : (m * 2 ^ e : ℚ) / (m' * 2 ^ e') / 2 ^ f = n / m' := by
            have unit : (2 : ℚ) ^ f ≠ 0 := by positivity
            have nonzero : (m' : ℚ) ≠ 0 := by positivity
            rw [zpow_sub₀ two_ne_zero] at units
            field_simp at units ⊢
            linarith
          dsimp only [UnpackedFloat.div]
          rw [core]
          exact exists_roundWithAccuracy (by omega) low (quotient ▸ represents_div n positive')

end

/-! ## Constants and whole numbers -/

theorem denotes_of_unpack {x : Float} {m : ℕ} {e : ℤ} {positive : 0 < m}
    (unpacked : x.toModel.unpack = .finite .positive m e positive) : Denotes x (m * 2 ^ e) := by
  unfold Denotes
  rw [unpacked]
  exact .finite positive (isCanonical_of_unpack unpacked)

theorem denotes_zero : Denotes 0 0 := .zero .positive

theorem denotes_one : Denotes 1 1 := by
  have unpacked : (1 : Float).toModel.unpack = .finite .positive (2 ^ 52) (-52) (by decide) := rfl
  have value : ((2 ^ 52 : ℕ) : ℚ) * 2 ^ (-52 : ℤ) = 1 := by norm_num
  exact value ▸ denotes_of_unpack unpacked

theorem denotes_half : Denotes 0.5 (1 / 2) := by
  have unpacked : (0.5 : Float).toModel.unpack = .finite .positive (2 ^ 52) (-53) (by decide) := rfl
  have value : ((2 ^ 52 : ℕ) : ℚ) * 2 ^ (-53 : ℤ) = 1 / 2 := by norm_num
  exact value ▸ denotes_of_unpack unpacked

/-- A word is rounded to a double. -/
theorem exists_denotes_toFloat (w : UInt64) :
    ∃ q, Rounds w.toNat q ∧ Denotes w.toFloat q := by
  have small : (w.toNat : ℚ) ≤ 2 ^ 100 := by
    have bound : (w.toNat : ℚ) < 2 ^ 64 := by exact_mod_cast w.toNat_lt
    exact bound.le.trans (by norm_num)
  have rounded := exists_normalize (Int.natCast_nonneg w.toNat) 0
  rw [zpow_zero, mul_one, Int.cast_natCast] at rounded
  exact exists_denotes rounded small

/-- A whole number is read with a factor of one, and rounded. -/
theorem ofScientific_zero {n : ℕ} (positive : 0 < n) :
    UnpackedFloat.ofScientific .binary64 n 0 =
      .roundWithAccuracy .binary64 .positive (n <<< 53) (-53) .exact := by
  have bits : Float.Model.Format.binary64.mantissaBits = 53 := rfl
  have narrow : ¬(0 : ℤ) < -(2 ^ 11 + n.log2) := by omega
  simp only [UnpackedFloat.ofScientific, dif_neg positive.ne', bits]
  rw [if_neg (by decide), if_neg narrow, if_pos le_rfl]
  simp only [UnpackedFloat.mul, Int.toNat_zero, pow_zero, mul_one, add_zero]
  rfl

theorem exists_ofScientific {n : ℕ} (long : 2 ^ 53 ≤ n) :
    ∃ q, Rounds n q ∧ StandsFor (UnpackedFloat.ofScientific .binary64 n 0) q := by
  have positive : 0 < n := by omega
  have positive' : 0 < n <<< 53 := by
    rw [Nat.shiftLeft_eq]
    positivity
  have low : -53 ≤ target (n <<< 53) (-53) := by
    have log := (Nat.le_log2 positive.ne').mpr long
    have same : target (n <<< 53) (-53) = target n 0 := target_shiftLeft positive 0 53
    rw [same, target]
    omega
  have units : (n : ℚ) / 2 ^ (-53 : ℤ) = (n <<< 53 : ℕ) := by
    rw [Nat.shiftLeft_eq, zpow_neg, div_inv_eq_mul, zpow_ofNat]
    push_cast
    rfl
  have whole := Represents.exact (n <<< 53)
  rw [← units] at whole
  rw [ofScientific_zero positive]
  exact exists_roundWithAccuracy positive' low whole

/-- A whole number is rounded to a double. -/
theorem exists_denotes_ofNat {n : ℕ} (small : (n : ℚ) ≤ 2 ^ 100) :
    ∃ q, Rounds n q ∧ Denotes (.ofNat n) q := by
  change ∃ q, Rounds n q ∧ Denotes (Float.ofScientific n false 0) q
  rcases lt_or_ge n (2 ^ 53) with short | long
  · -- A short number is a double, and it is multiplied by one.
    have word : n.toUInt64.toNat = n := Nat.mod_eq_of_lt (by omega)
    obtain ⟨q, rounds, denotes⟩ := exists_denotes_toFloat n.toUInt64
    rw [word] at rounds
    have same := rounds.eq_of_isDouble ⟨n, 0, short, by decide, by simp⟩
    subst same
    have product := denotes.mul denotes_one (by rwa [mul_one])
    rw [mul_one] at product
    have branch : Float.ofScientific n false 0 = n.toUInt64.toFloat * 1 :=
      dif_pos ⟨short, by decide⟩
    rwa [branch]
  · have branch : Float.ofScientific n false 0 = .ofModel (.ofScientific n 0) :=
      dif_neg fun short => by omega
    rw [branch]
    refine exists_denotes ?_ small
    exact exists_ofScientific long

/-- A whole number of fifty-three bits is a double. -/
theorem denotes_ofNat {n : ℕ} (bits : n < 2 ^ 53) : Denotes (.ofNat n) n := by
  have small : (n : ℚ) ≤ 2 ^ 100 := by
    have bits : (n : ℚ) < 2 ^ 53 := by exact_mod_cast bits
    exact bits.le.trans (by norm_num)
  obtain ⟨q, rounds, denotes⟩ := exists_denotes_ofNat small
  rwa [rounds.eq_of_isDouble ⟨n, 0, bits, by decide, by simp⟩] at denotes

/-! ## Order -/

/-- A mantissa that has its leading bit or the least unit is above all that have a smaller unit. -/
theorem mul_zpow_lt_of_lt {m m' : ℕ} {e e' : ℤ} (canonical : IsCanonical m e)
    (canonical' : IsCanonical m' e') (less : e < e') : (m : ℚ) * 2 ^ e < m' * 2 ^ e' := by
  have leading := canonical'.leading.resolve_right fun least =>
    absurd canonical.least (not_le.mpr (least ▸ less))
  have below := Binary64.mul_zpow_lt canonical.bits (le_refl e)
  have above := Binary64.le_mul_zpow leading (Int.add_one_le_of_lt less)
  rw [zpow_add_one₀ two_ne_zero] at above
  linarith

/-- Mantissas with exponents compare as exponents do, and as mantissas do where these are equal. -/
theorem compare_eq_lt_iff {m m' : ℕ} {e e' : ℤ} (canonical : IsCanonical m e)
    (canonical' : IsCanonical m' e') :
    (compare e e').then (compare m m') = .lt ↔ (m : ℚ) * 2 ^ e < m' * 2 ^ e' := by
  rcases lt_trichotomy e e' with less | rfl | greater
  · rw [Int.compare_eq_lt.mpr less]
    exact iff_of_true rfl (mul_zpow_lt_of_lt canonical canonical' less)
  · have unit : (0 : ℚ) < 2 ^ e := by positivity
    rw [Int.compare_eq_eq.mpr rfl, mul_lt_mul_iff_of_pos_right unit, Nat.cast_lt]
    exact Nat.compare_eq_lt
  · rw [Int.compare_eq_gt.mpr greater]
    exact iff_of_false Ordering.noConfusion (mul_zpow_lt_of_lt canonical' canonical greater).not_gt

section

variable {x y : Float} {a b : ℚ}

/-- Doubles compare as what they stand for. -/
theorem Denotes.lt_iff (h : Denotes x a) (h' : Denotes y b) : x < y ↔ a < b := by
  rw [lt_iff_unpack]
  unfold Denotes at h h'
  generalize x.toModel.unpack = u at h
  generalize y.toModel.unpack = w at h'
  cases h with
  | zero s =>
      cases h' with
      | zero s' => exact iff_of_false Bool.false_ne_true (lt_irrefl 0)
      | finite positive canonical => exact iff_of_true rfl (by positivity)
  | @finite m e positive canonical =>
      cases h' with
      | zero s' => exact iff_of_false Bool.false_ne_true (not_lt.mpr (by positivity))
      | @finite m' e' positive' canonical' =>
          rw [← compare_eq_lt_iff canonical canonical']
          change (some _ == some Ordering.lt) = true ↔ _
          rw [Option.some_beq_some, beq_iff_eq]

end

/-! ## Parts -/

section

variable {x : Float} {parts : Binary64}

/-- The finite doubles have parts, and no others have. -/
theorem isSome_ofFloat? (x : Float) : (Binary64.ofFloat? x).isSome = x.isFinite := by
  change _ = x.toModel.unpack.isFinite
  rw [Binary64.ofFloat?_eq]
  cases x.toModel.unpack <;> rfl

/-- A double that has parts is a zero or a finite number. -/
theorem unpack_of_ofFloat? (taken : Binary64.ofFloat? x = some parts) :
    (∃ s, x.toModel.unpack = .zero s ∧ parts = ⟨s == .negative, 0, minExponent⟩) ∨
      ∃ s m e positive, x.toModel.unpack = .finite s m e positive ∧
        parts = ⟨s == .negative, m, e⟩ := by
  rw [Binary64.ofFloat?_eq] at taken
  cases unpacked : x.toModel.unpack with
  | zero s => exact Or.inl ⟨s, rfl, by simpa [unpacked, Binary64.ofUnpacked?] using taken.symm⟩
  | finite s m e positive =>
      refine Or.inr ⟨s, m, e, positive, rfl, ?_⟩
      simpa [unpacked, Binary64.ofUnpacked?] using taken.symm
  | infinity s => simp [unpacked, Binary64.ofUnpacked?] at taken
  | notANumber => simp [unpacked, Binary64.ofUnpacked?] at taken

/-- A double is below zero if it has the sign and is no zero. -/
theorem lt_zero_iff (taken : Binary64.ofFloat? x = some parts) :
    x < 0 ↔ parts.negative = true ∧ parts.significand ≠ 0 := by
  rw [lt_iff_unpack, unpack_zero]
  obtain ⟨s, unpacked, rfl⟩ | ⟨s, m, e, positive, unpacked, rfl⟩ := unpack_of_ofFloat? taken
  · rw [unpacked]
    exact iff_of_false Bool.false_ne_true fun some => some.2 rfl
  · rw [unpacked]
    cases s
    · exact iff_of_true rfl ⟨rfl, positive.ne'⟩
    · exact iff_of_false Bool.false_ne_true fun some => Bool.false_ne_true some.1

theorem value_nonpos (taken : Binary64.ofFloat? x = some parts) (below : x < 0) :
    parts.value ≤ 0 := by
  have part : (0 : ℚ) ≤ parts.significand * 2 ^ parts.exponent := by positivity
  rw [Binary64.value, if_pos ((lt_zero_iff taken).mp below).1]
  linarith

theorem value_of_not_lt_zero (taken : Binary64.ofFloat? x = some parts) (above : ¬x < 0) :
    parts.value = parts.significand * 2 ^ parts.exponent := by
  rw [lt_zero_iff taken] at above
  by_cases negative : parts.negative = true
  · have none : parts.significand = 0 := not_not.mp fun some => above ⟨negative, some⟩
    simp [Binary64.value, none]
  · exact Binary64.value_of_positive (Bool.eq_false_iff.mpr negative)

/-- A double that is not below zero stands for what its parts do. -/
theorem denotes_value (taken : Binary64.ofFloat? x = some parts) (above : ¬x < 0) :
    Denotes x parts.value := by
  rw [value_of_not_lt_zero taken above]
  rw [lt_zero_iff taken] at above
  unfold Denotes
  obtain ⟨s, unpacked, rfl⟩ | ⟨s, m, e, positive, unpacked, rfl⟩ := unpack_of_ofFloat? taken
  · rw [unpacked, Nat.cast_zero, zero_mul]
    exact .zero s
  · rw [unpacked]
    cases s
    · exact absurd ⟨rfl, positive.ne'⟩ above
    · exact .finite positive (isCanonical_of_unpack unpacked)

end

end RebateRelay.Number
