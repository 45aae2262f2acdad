import RebateRelay.Proofs.Number.Division
import RebateRelay.Proofs.Number.LastPlace

/-!
# When a quotient is in range

A division comes to the exact quotient rounded at its last place, and it fails only where the exact
quotient is too large to be rounded at all. Both are said of one step first: it either ends the
division in one of these two ways or leads on with more digits of the same quotient. As each step
adds a digit at least, the steps that are granted at the start are enough.
-/

namespace RebateRelay.Number

namespace Decimal

/-- A step of fewer than nine digits is followed by no other: the places or the digits are used up.
-/
theorem widestStep_last {q : ℕ} {s : ℤ} (inside : q < mantissaBound) (allowed : s ≤ maxScale)
    (short : widestStep q s < 9) :
    s + widestStep q s = maxScale ∨ mantissaBound ≤ q * tenTo (widestStep q s + 1) := by
  obtain ⟨-, within, -, -⟩ := widestStep_spec inside allowed
  suffices next : ¬(s + (widestStep q s + 1 : ℕ) ≤ maxScale ∧
      q * tenTo (widestStep q s + 1) < mantissaBound) by
    rw [not_and_or, not_lt] at next
    refine next.imp_left fun beyond => ?_
    push_cast at beyond
    omega
  revert short
  unfold widestStep
  generalize step : (List.range 10).reverse.find? _ = found
  intro short
  cases found with
  | none =>
      have none := List.find?_eq_none.mp step 1 (by decide)
      simpa only [Bool.and_eq_true, decide_eq_true_eq, Option.getD_none, zero_add] using none
  | some x =>
      simp only [Option.getD_some] at short ⊢
      obtain ⟨-, i, bounded, place, skipped⟩ := List.find?_eq_some_iff_getElem.mp step
      simp only [List.getElem_reverse, List.getElem_range, List.length_range] at place
      simp only [List.length_reverse, List.length_range] at bounded
      have before := skipped (8 - x) (by omega)
      simp only [List.getElem_reverse, List.getElem_range, List.length_range] at before
      have digit : 10 - 1 - (8 - x) = x + 1 := by omega
      rw [digit] at before
      simpa only [Bool.not_eq_true', Bool.and_eq_false_iff, decide_eq_false_iff_not,
        ← not_and_or] using before

/-- What a division may come to: the exact quotient rounded, or nothing where it is too large. -/
def Quotient.Settles (v : ℚ) : Option Quotient → Prop
  | some z => 0 ≤ z.s ∧ RoundsTo v (z.q / 10 ^ z.s.toNat)
  | none => limit ≤ v

/-- A quotient whose digits outgrow a mantissa before they reach the point is too large. -/
theorem limit_le_of_digits {divisor r q x : ℕ} {v : ℚ} {s : ℤ}
    (exact : v * 10 ^ s = q + (r : ℚ) / divisor) (before : s + x ≤ 0)
    (large : mantissaBound ≤ q * tenTo x) : limit ≤ v := by
  obtain ⟨n, scale⟩ := Int.eq_ofNat_of_zero_le (a := -s) (by omega)
  have none : (0 : ℚ) ≤ (r : ℚ) / divisor := by positivity
  rw [show s = -(n : ℤ) by omega, zpow_neg, zpow_natCast, ← div_eq_mul_inv,
    div_eq_iff (by positivity)] at exact
  have digits : (mantissaBound : ℚ) ≤ (q * tenTo x : ℕ) := by exact_mod_cast large
  push_cast at digits
  rw [cast_mantissaBound, cast_tenTo] at digits
  have places : (q : ℚ) * 10 ^ x ≤ (q + r / divisor) * 10 ^ n := by
    gcongr
    · linarith
    · norm_num
    · omega
  rw [exact, limit]
  linarith

namespace Quotient.Holds

variable {divisor r q : ℕ} {v : ℚ} {s : ℤ} {inexact : Bool}

/-- Nothing is left: the digits so far are the quotient. -/
theorem settles_of_exact (h : Holds divisor v 0 ⟨q, s, inexact⟩) (whole : 0 ≤ s) :
    Settles v (some ⟨q, s, inexact⟩) := by
  have allowed : s.toNat ≤ maxScale := Int.toNat_le.mpr h.allowed
  have rounded := @roundsTo_magnitude ⟨false, q, s.toNat⟩ ⟨h.inside, allowed⟩
  rw [h.magnitude_eq whole false] at rounded
  refine ⟨whole, ?_⟩
  have shown := h.magnitude_eq whole false
  rw [magnitude] at shown
  rwa [shown]

/-- No digit fits any more: what is left is rounded. -/
theorem settles_of_last {places : ℕ} (h : Holds divisor v r ⟨q, places, inexact⟩)
    (needed : (places : ℤ) = maxScale ∨ mantissaBound ≤ 10 * q) :
    Settles v (if roundHalfEven (q * divisor + r) divisor < mantissaBound then
        some ⟨roundHalfEven (q * divisor + r) divisor, places, true⟩
      else if (places : ℤ) = 0 then none
      else some ⟨(mantissaBound + 5) / 10, (places : ℤ) - 1, true⟩) := by
  have divides : 0 < divisor := Nat.zero_lt_of_lt h.below
  have positive := h.cast_divisor_pos
  have held := h.exact
  rw [zpow_natCast] at held
  have exact : v * 10 ^ places = ((q * divisor + r : ℕ) : ℚ) / divisor := by
    rw [held]
    push_cast
    field_simp
  have nearest : IsNearestEven (roundHalfEven (q * divisor + r) divisor) (v * 10 ^ places) := by
    rw [exact]
    exact isNearestEven_roundHalfEven divides
  have inside : roundHalfEven (q * divisor + r) divisor ≤ mantissaBound := by
    have rounded := roundHalfEven_le_succ (q * divisor + r) divisor
    rw [mul_comm q, Nat.mul_add_div divides, Nat.div_eq_of_lt h.below, add_zero,
      mul_comm divisor] at rounded
    exact rounded.trans h.inside
  have full : places = maxScale ∨ limit ≤ v * 10 ^ (places + 1) := by
    refine needed.imp (fun all => by exact_mod_cast all) fun wide => ?_
    have digits : (mantissaBound : ℚ) ≤ (10 * q : ℕ) := by exact_mod_cast wide
    have none : (0 : ℚ) ≤ (r : ℚ) / divisor := by positivity
    push_cast at digits
    rw [cast_mantissaBound] at digits
    rw [pow_succ, ← mul_assoc, held, limit]
    linarith
  have allowed : places ≤ maxScale := Int.ofNat_le.mp h.allowed
  split_ifs with fits none
  · exact ⟨Int.natCast_nonneg places, 
      @roundsTo_of_settle? false _ _ _ _ nearest inside allowed full (if_pos fits)⟩
  · have none : places = 0 := by exact_mod_cast none
    exact @limit_le_of_settle?_eq_none false _ _ _ nearest (by simp [settle?, fits, none])
  · have scale : ((places : ℤ) - 1).toNat = places - 1 := by omega
    have none : places ≠ 0 := by exact_mod_cast none
    refine ⟨by simp only; omega, ?_⟩
    simp only [scale]
    exact @roundsTo_of_settle? false _ _ _ _ nearest inside allowed full
      (by rw [settle?, if_neg fits, if_neg none])

end Quotient.Holds

/-- Dropping the last digit rounds to the nearest, and half of ten to the even digit. -/
theorem isNearestEven_dropLast {q r divisor : ℕ} (below : r < divisor) :
    IsNearestEven (dropLast q r) ((q + (r : ℚ) / divisor) / 10) := by
  have positive : (0 : ℚ) < divisor := by exact_mod_cast Nat.zero_lt_of_lt below
  have none : (0 : ℚ) ≤ r / divisor := by positivity
  refine ⟨abs_dropLast_sub_le below, fun half => ?_⟩
  have digits : (q : ℚ) = 10 * (q / 10 : ℕ) + (q % 10 : ℕ) := by
    exact_mod_cast (Nat.div_add_mod q 10).symm
  have part : (r : ℚ) / divisor < 1 := by
    rw [div_lt_one positive]
    exact_mod_cast below
  -- Halfway stands a five with nothing behind it, which is where evenness is looked at.
  have five : q % 10 = 5 ∧ r = 0 := by
    by_contra other
    simp only [dropLast, other, if_false] at half
    split_ifs at half with up
    · have more : (5 : ℚ) < (q % 10 : ℕ) + r / divisor := by
        rcases Nat.eq_or_lt_of_le up with five | more
        · have left : (0 : ℚ) < r := by
            exact_mod_cast Nat.pos_of_ne_zero fun none => other ⟨five.symm, none⟩
          have left : (0 : ℚ) < r / divisor := by positivity
          rw [← five, Nat.cast_ofNat]
          linarith
        · have more : ((5 + 1 : ℕ) : ℚ) ≤ (q % 10 : ℕ) := by exact_mod_cast more
          push_cast at more
          linarith
      have high : ((q % 10 : ℕ) : ℚ) ≤ 9 := by
        exact_mod_cast Nat.le_of_lt_succ (Nat.mod_lt q (by decide))
      rw [digits] at half
      push_cast at half
      rw [abs_of_pos (by linarith)] at half
      linarith
    · have low : ((q % 10 : ℕ) : ℚ) ≤ 4 := by exact_mod_cast Nat.le_of_lt_succ (not_le.mp up)
      have least : (0 : ℚ) ≤ (q % 10 : ℕ) := by positivity
      rw [digits, abs_sub_comm, abs_of_nonneg (by linarith)] at half
      linarith
  simp only [dropLast, five, and_self, if_true]
  split_ifs <;> omega

/-- A step that adds digits leads on, or gives up the last of them, or shows that the quotient is
too large. -/
theorem settles_extended {divisor r q x : ℕ} {v : ℚ} {s : ℤ} {inexact : Bool}
    {rest : Option Quotient} (h : (⟨q, s, inexact⟩ : Quotient).Holds divisor v r) (few : x ≤ 9)
    (allowed : s + x ≤ maxScale) (room : q * tenTo x < mantissaBound) (seen : Bool)
    (next : (⟨q * tenTo x + r * tenTo x / divisor, s + x, seen⟩ : Quotient).Holds divisor v
      (r * tenTo x % divisor) → Quotient.Settles v rest) :
    Quotient.Settles v (if q * tenTo x + r * tenTo x / divisor < mantissaBound then rest
      else if s + (x : ℤ) ≤ 0 then none
      else some ⟨dropLast (q * tenTo x + r * tenTo x / divisor) (r * tenTo x % divisor),
        s + x - 1, seen⟩) := by
  have divides : 0 < divisor := Nat.zero_lt_of_lt h.below
  have below : r * tenTo x % divisor < divisor := Nat.mod_lt _ divides
  have held := h.extend x
  split_ifs with inside point
  · exact next ⟨held, below, inside, allowed⟩
  · exact limit_le_of_digits (x := 0) held (by omega) (by simpa using inside)
  · -- One digit too many, and there is a place to give up.
    obtain ⟨places, scale⟩ := Int.eq_ofNat_of_zero_le (Int.le_sub_one_of_lt (not_le.mp point))
    have step : (10 : ℚ) ^ (s + (x : ℤ)) = 10 ^ places * 10 := by
      rw [show s + (x : ℤ) = places + 1 by omega, zpow_add_one₀ (by norm_num), zpow_natCast]
    have added := (mul_tenTo_div_lt h.below x).trans_le (tenTo_le_tenTo.mpr few)
    have grown : q * tenTo x + r * tenTo x / divisor < mantissaBound + tenTo 9 := by omega
    rw [step, ← mul_assoc] at held
    generalize q * tenTo x + r * tenTo x / divisor = q' at grown held inside ⊢
    generalize r * tenTo x % divisor = r' at below held ⊢
    have nearest := @isNearestEven_dropLast q' r' divisor below
    rw [← held, mul_div_cancel_right₀ _ (by norm_num : (10 : ℚ) ≠ 0)] at nearest
    have fits : dropLast q' r' < mantissaBound := by
      have shortened := dropLast_le q' r'
      have room : tenTo 9 + 20 < mantissaBound := by decide
      omega
    have full : limit ≤ v * 10 ^ (places + 1) := by
      have digits : (mantissaBound : ℚ) ≤ q' := by exact_mod_cast not_lt.mp inside
      have none : (0 : ℚ) ≤ (r' : ℚ) / divisor := by positivity
      rw [cast_mantissaBound] at digits
      rw [pow_succ, ← mul_assoc, held, limit]
      linarith
    have allowed : places ≤ maxScale := by omega
    refine ⟨by simp only; omega, ?_⟩
    simp only [scale, Int.toNat_natCast]
    exact .intro ⟨allowed, (lt_mantissaBound_iff nearest).mp fits, Or.inr full⟩ nearest

/-- A division comes to the exact quotient rounded, or the quotient is too large. -/
theorem settles_divideFrom {divisor fuel r : ℕ} {v : ℚ} {x : Quotient} (h : x.Holds divisor v r)
    (enough : maxScale - x.s < fuel) : Quotient.Settles v (divideFrom divisor fuel r x) := by
  induction fuel generalizing r x with
  | zero =>
      have allowed := h.allowed
      omega
  | succ fuel ih =>
      obtain ⟨q, s, inexact⟩ := x
      simp only at enough
      unfold divideFrom
      simp only
      split
      case isTrue none =>
        subst none
        split
        case isTrue whole => exact h.settles_of_exact whole
        case isFalse negative =>
          split
          case isTrue room =>
            refine settles_extended h (min_le_left _ _) ?_ room inexact fun held => ih held ?_
            · have places : (maxScale : ℤ) = 28 := rfl
              omega
            · simp only
              omega
          case isFalse full =>
            exact limit_le_of_digits h.exact (by simp only; omega) (not_lt.mp full)
      case isFalse left =>
        obtain ⟨few, allowed, room, last⟩ := widestStep_spec h.inside h.allowed
        split
        case isTrue stuck =>
          rcases widestStep_last h.inside h.allowed stuck.1 with all | full
          · have places : (maxScale : ℤ) = 28 := rfl
            simp only at all
            omega
          · exact limit_le_of_digits h.exact (by simp only; omega) full
        case isFalse whole =>
          split
          case isTrue step =>
            obtain ⟨places, rfl⟩ : ∃ places : ℕ, s = places :=
              Int.eq_ofNat_of_zero_le (by omega)
            exact h.settles_of_last (last step)
          case isFalse some =>
            refine settles_extended h few allowed room true fun held => ih held ?_
            simp only
            omega

/-- What becomes of a quotient of decimals, unless it is one by zero. -/
theorem settles_div? {x y : Decimal} (valid : x.Valid) (divides : y.mantissa ≠ 0) :
    match x.div? y with
    | some z => RoundsTo (x.magnitude / y.magnitude) z.magnitude
    | none => limit ≤ x.magnitude / y.magnitude := by
  have enough : (maxScale : ℤ) - ((x.scale : ℤ) - y.scale) <
      (((maxScale : ℤ) - ((x.scale : ℤ) - y.scale)).toNat + 2 : ℕ) := by omega
  have settles := settles_divideFrom (holds_start valid divides) enough
  cases quotient : x.div? y with
  | some z =>
      obtain ⟨-, ⟨none, rfl⟩ | ⟨found, divided, trims, -⟩⟩ := div?_cases quotient
      · rw [magnitude_eq_zero.mpr none, zero_div, ← magnitude_zero]
        exact roundsTo_magnitude (by decide)
      · rw [divided] at settles
        have same : z.magnitude = found.q / 10 ^ found.s.toNat := trims.magnitude z.negative
        show RoundsTo (x.magnitude / y.magnitude) z.magnitude
        rw [same]
        exact settles.2
  | none =>
      unfold div? at quotient
      rw [if_neg divides] at quotient
      split at quotient
      case isTrue => cases quotient
      case isFalse =>
        rcases divided : divideFrom y.mantissa _ (x.mantissa % y.mantissa) _ with _ | found
        · rwa [divided] at settles
        · simp [divided] at quotient

/-- A quotient is the exact quotient rounded. -/
theorem roundsTo_div? {x y z : Decimal} (valid : x.Valid) (quotient : x.div? y = some z) :
    RoundsTo (x.magnitude / y.magnitude) z.magnitude := by
  have settles := settles_div? valid (div?_cases quotient).1
  rwa [quotient] at settles

/-- There is a quotient when the divisor is not zero and the exact quotient is below the limit. -/
theorem exists_div?_iff {x y : Decimal} (valid : x.Valid) :
    (∃ z, x.div? y = some z) ↔ y.magnitude ≠ 0 ∧ x.magnitude / y.magnitude < limit := by
  rw [Ne, magnitude_eq_zero]
  constructor
  · rintro ⟨z, quotient⟩
    exact ⟨(div?_cases quotient).1, (roundsTo_div? valid quotient).lt_limit⟩
  · rintro ⟨divides, small⟩
    have settles := settles_div? valid divides
    cases quotient : x.div? y with
    | some z => exact ⟨z, rfl⟩
    | none =>
        rw [quotient] at settles
        exact absurd small (not_lt.mpr settles)

end Decimal

end RebateRelay.Number
