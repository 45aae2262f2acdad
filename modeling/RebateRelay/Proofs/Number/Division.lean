import Mathlib.Data.Nat.Cast.Field
import RebateRelay.Proofs.Number.Rounding

/-!
# Quotients of decimals

A division adds digits to its quotient, as many as there is room for, until nothing is left or no
more are allowed; then it rounds. What it holds at each step is the exact quotient, split into the
digits so far and a remainder, and so the result is as near to the exact quotient as a product is to
the exact product. A number of basis points is a decimal part of one exactly.
-/

namespace RebateRelay.Number

namespace Decimal

/-- The digits that a step adds keep the quotient in range, and they are as many as do. -/
theorem widestStep_spec {q : ℕ} {s : ℤ} (inside : q < mantissaBound) (allowed : s ≤ maxScale) :
    widestStep q s ≤ 9 ∧ s + widestStep q s ≤ maxScale ∧
      q * tenTo (widestStep q s) < mantissaBound ∧
      (widestStep q s = 0 → s = maxScale ∨ mantissaBound ≤ 10 * q) := by
  unfold widestStep
  generalize step : (List.range 10).reverse.find? _ = found
  cases found with
  | none =>
      have none := List.find?_eq_none.mp step 0 (by decide)
      simp [inside, allowed] at none
  | some x =>
      have fits := List.find?_some step
      have listed := List.mem_of_find?_eq_some step
      simp only [Bool.and_eq_true, decide_eq_true_eq] at fits
      simp only [List.mem_reverse, List.mem_range] at listed
      simp only [Option.getD_some]
      refine ⟨by omega, fits.1, fits.2, ?_⟩
      rintro rfl
      obtain ⟨-, i, short, last, skipped⟩ := List.find?_eq_some_iff_getElem.mp step
      have place : i = 9 := by
        simp only [List.getElem_reverse, List.getElem_range, List.length_range] at last
        simp only [List.length_reverse, List.length_range] at short
        omega
      -- One digit would have been found before none.
      have one := skipped 8 (by omega)
      simp only [List.getElem_reverse, List.getElem_range, List.length_range] at one
      by_contra neither
      rw [not_or] at neither
      have more : q * tenTo 1 < mantissaBound := by
        rw [tenTo_succ, tenTo_zero]
        omega
      simp [more] at one
      omega

/-- Where there is room for nine digits, nine are added. -/
theorem widestStep_eq_nine {q : ℕ} {s : ℤ} (places : s + 9 ≤ maxScale)
    (room : q * tenTo 9 < mantissaBound) : widestStep q s = 9 := by
  have steps : (List.range 10).reverse = 9 :: (List.range 9).reverse := by decide
  simp [widestStep, steps, places, room]

/-- A quotient so far and what remains make up the exact quotient, and the digits so far are in
range. -/
structure Quotient.Holds (divisor : ℕ) (v : ℚ) (r : ℕ) (x : Quotient) : Prop where
  exact : v * 10 ^ x.s = x.q + (r : ℚ) / divisor
  below : r < divisor
  inside : x.q < mantissaBound
  allowed : x.s ≤ maxScale

/-- A quotient that is finished: its scale is none below zero, and it is the exact quotient rounded.
-/
def Quotient.IsRounded (v : ℚ) (x : Quotient) : Prop :=
  0 ≤ x.s ∧ ∀ negative, Decimal.IsRounded v ⟨negative, x.q, x.s.toNat⟩

namespace Quotient.Holds

variable {divisor r q : ℕ} {v : ℚ} {s : ℤ} {inexact : Bool}

theorem cast_divisor_pos {x : Quotient} (h : x.Holds divisor v r) : (0 : ℚ) < divisor := by
  exact_mod_cast Nat.zero_lt_of_lt h.below

/-- More digits, with what remains after them, make up the same quotient. -/
theorem extend (h : Holds divisor v r ⟨q, s, inexact⟩) (x : ℕ) :
    v * 10 ^ (s + x) =
      ((q * tenTo x + r * tenTo x / divisor : ℕ) : ℚ) + (r * tenTo x % divisor : ℕ) / divisor := by
  have positive := h.cast_divisor_pos
  have whole : ((divisor * (r * tenTo x / divisor) + r * tenTo x % divisor : ℕ) : ℚ) =
      (r * tenTo x : ℕ) := congrArg _ (Nat.div_add_mod _ _)
  rw [zpow_add₀ (by norm_num), zpow_natCast, ← mul_assoc, h.exact, ← cast_tenTo x]
  push_cast at whole ⊢
  field_simp
  linarith

/-- When nothing remains, the digits so far are the quotient. -/
theorem magnitude_eq (h : Holds divisor v 0 ⟨q, s, inexact⟩) (whole : 0 ≤ s) (negative : Bool) :
    magnitude ⟨negative, q, s.toNat⟩ = v := by
  obtain ⟨places, rfl⟩ := Int.eq_ofNat_of_zero_le whole
  have exact := h.exact
  simp only [Nat.cast_zero, zero_div, add_zero, zpow_natCast] at exact
  rw [magnitude, div_eq_iff (by positivity)]
  exact exact.symm

theorem isRounded_of_exact (h : Holds divisor v 0 ⟨q, s, inexact⟩) (whole : 0 ≤ s) :
    Quotient.IsRounded v ⟨q, s, inexact⟩ := by
  have allowed : s.toNat ≤ maxScale := Int.toNat_le.mpr h.allowed
  exact ⟨whole, fun negative => .exact ⟨h.inside, allowed⟩ (h.magnitude_eq whole negative)⟩

/-- When no digit fits any more, what remains is rounded. -/
theorem isRounded_of_settle? {places : ℕ} (h : Holds divisor v r ⟨q, places, inexact⟩)
    (needed : (places : ℤ) = maxScale ∨ mantissaBound ≤ 10 * q) {negative : Bool} {z : Decimal}
    (settled : settle? negative (roundHalfEven (q * divisor + r) divisor) places = some z) :
    z.IsRounded v := by
  have divides : 0 < divisor := Nat.zero_lt_of_lt h.below
  have positive := h.cast_divisor_pos
  have exact : v * 10 ^ places = ((q * divisor + r : ℕ) : ℚ) / divisor := by
    have held := h.exact
    rw [zpow_natCast] at held
    rw [held]
    push_cast
    field_simp
  refine Decimal.isRounded_of_settle? ?_ ?_ (Int.ofNat_le.mp h.allowed) ?_ settled
  · rw [exact]
    exact abs_roundHalfEven_sub_le divides
  · have rounded := roundHalfEven_le_succ (q * divisor + r) divisor
    rw [mul_comm q, Nat.mul_add_div divides, Nat.div_eq_of_lt h.below, add_zero,
      mul_comm divisor] at rounded
    exact rounded.trans h.inside
  · refine needed.imp (fun last => by exact_mod_cast last) fun wide => ?_
    have digits : (2 : ℚ) ^ 96 ≤ 10 * q := by
      rw [← cast_mantissaBound]
      exact_mod_cast wide
    have more : (0 : ℚ) ≤ r / divisor := by positivity
    have held := h.exact
    rw [zpow_natCast] at held
    rw [held]
    linarith

end Quotient.Holds

/-- The last digit of a quotient that has grown too long is dropped, with rounding to the nearest.
-/
def dropLast (q r : ℕ) : ℕ :=
  if (if q % 10 = 5 ∧ r = 0 then q / 10 % 2 = 1 else 5 ≤ q % 10) then q / 10 + 1 else q / 10

theorem dropLast_le (q r : ℕ) : dropLast q r ≤ q / 10 + 1 := by
  unfold dropLast
  split_ifs <;> omega

theorem abs_dropLast_sub_le {q r divisor : ℕ} (below : r < divisor) :
    |(dropLast q r : ℚ) - (q + (r : ℚ) / divisor) / 10| ≤ 1 / 2 := by
  have positive : (0 : ℚ) < divisor := by exact_mod_cast Nat.zero_lt_of_lt below
  have none : (0 : ℚ) ≤ r / divisor := by positivity
  have part : (r : ℚ) / divisor < 1 := by
    rw [div_lt_one positive]
    exact_mod_cast below
  have digits : (q : ℚ) = 10 * (q / 10 : ℕ) + (q % 10 : ℕ) := by
    exact_mod_cast (Nat.div_add_mod q 10).symm
  have last : (q % 10 : ℕ) < (10 : ℚ) := by exact_mod_cast Nat.mod_lt q (by decide)
  unfold dropLast
  rw [digits, abs_le]
  by_cases half : q % 10 = 5 ∧ r = 0
  · simp only [half, and_self, if_true, Nat.cast_zero, zero_div, add_zero]
    split_ifs <;> push_cast <;> constructor <;> linarith
  · simp only [half, if_false]
    split_ifs with up
    · have high : (5 : ℚ) ≤ (q % 10 : ℕ) := by exact_mod_cast up
      have high' : ((q % 10 : ℕ) : ℚ) ≤ 9 := by
        exact_mod_cast Nat.le_of_lt_succ (Nat.mod_lt q (by decide))
      push_cast
      constructor <;> linarith
    · have low : ((q % 10 : ℕ) : ℚ) ≤ 4 := by exact_mod_cast Nat.le_of_lt_succ (not_le.mp up)
      have low' : (0 : ℚ) ≤ (q % 10 : ℕ) := by positivity
      constructor <;> linarith

/-- The digits that a step adds are fewer than it has room for. -/
theorem mul_tenTo_div_lt {divisor r : ℕ} (below : r < divisor) (x : ℕ) :
    r * tenTo x / divisor < tenTo x := by
  rw [Nat.div_lt_iff_lt_mul (Nat.zero_lt_of_lt below), mul_comm (tenTo x)]
  exact Nat.mul_lt_mul_of_pos_right below (tenTo_pos x)

/-- A quotient that has grown too long by the last step is rounded when it loses a digit. -/
theorem isRounded_dropLast {divisor r q x places : ℕ} {v : ℚ} {s : ℤ} {inexact : Bool}
    (h : Quotient.Holds divisor v r ⟨q, s, inexact⟩) (few : x ≤ 9) (allowed : s + x ≤ maxScale)
    (room : q * tenTo x < mantissaBound) (scale : s + x = places + 1)
    (full : mantissaBound ≤ q * tenTo x + r * tenTo x / divisor) (seen : Bool) :
    Quotient.IsRounded v ⟨dropLast (q * tenTo x + r * tenTo x / divisor) (r * tenTo x % divisor),
      places, seen⟩ := by
  have divides : 0 < divisor := Nat.zero_lt_of_lt h.below
  have below : r * tenTo x % divisor < divisor := Nat.mod_lt _ divides
  have added := (mul_tenTo_div_lt h.below x).trans_le (tenTo_le_tenTo.mpr few)
  have grown : q * tenTo x + r * tenTo x / divisor < mantissaBound + tenTo 9 := by omega
  have held := h.extend x
  have step : (10 : ℚ) ^ (s + (x : ℤ)) = 10 ^ places * 10 := by
    rw [scale, zpow_add_one₀ (by norm_num), zpow_natCast]
  rw [step, ← mul_assoc] at held
  generalize q * tenTo x + r * tenTo x / divisor = q' at full grown held ⊢
  generalize r * tenTo x % divisor = r' at below held ⊢
  have room : tenTo 9 + 20 < mantissaBound := by decide
  have shortened := dropLast_le q' r'
  have inside : dropLast q' r' < mantissaBound := by omega
  have digits : (2 : ℚ) ^ 96 ≤ q' := by
    rw [← cast_mantissaBound]
    exact_mod_cast full
  have none : (0 : ℚ) ≤ (r' : ℚ) / divisor := by positivity
  refine ⟨Int.natCast_nonneg places, fun negative => ?_⟩
  refine .nearest inside (by simp only; omega) ?_ (Or.inr ?_)
  · rw [Int.toNat_natCast, show v * 10 ^ places = (q' + (r' : ℚ) / divisor) / 10 by linarith]
    exact abs_dropLast_sub_le below
  · rw [Int.toNat_natCast]
    linarith

/-- The last step of a division rounds what is left, and gives up a digit if that is too much. -/
theorem isRounded_last {divisor r q places : ℕ} {v : ℚ} {inexact : Bool} {z : Quotient}
    (h : (⟨q, places, inexact⟩ : Quotient).Holds divisor v r)
    (needed : (places : ℤ) = maxScale ∨ mantissaBound ≤ 10 * q)
    (found : (if roundHalfEven (q * divisor + r) divisor < mantissaBound then
        some (⟨roundHalfEven (q * divisor + r) divisor, places, true⟩ : Quotient)
      else if (places : ℤ) = 0 then none
      else some ⟨(mantissaBound + 5) / 10, (places : ℤ) - 1, true⟩) = some z) : z.IsRounded v := by
  split at found
  case isTrue fits =>
    cases found
    exact ⟨Int.natCast_nonneg places, fun negative => h.isRounded_of_settle? needed (if_pos fits)⟩
  case isFalse full =>
    split at found <;> cases found
    case isFalse.refl nonzero =>
      have scale : ((places : ℤ) - 1).toNat = places - 1 := by omega
      refine ⟨by simp only; omega, fun negative => ?_⟩
      have settled : settle? negative (roundHalfEven (q * divisor + r) divisor) places =
          some ⟨negative, (mantissaBound + 5) / 10, ((places : ℤ) - 1).toNat⟩ := by
        rw [settle?, if_neg full, if_neg (by omega), scale]
      exact h.isRounded_of_settle? needed settled

/-- A step that adds digits leads on or, where they are too many, gives up the last of them. -/
theorem isRounded_extended {divisor r q x : ℕ} {v : ℚ} {s : ℤ} {inexact : Bool} {z : Quotient}
    {rest : Option Quotient} (h : (⟨q, s, inexact⟩ : Quotient).Holds divisor v r) (few : x ≤ 9)
    (allowed : s + x ≤ maxScale) (room : q * tenTo x < mantissaBound) (seen : Bool)
    (next : (⟨q * tenTo x + r * tenTo x / divisor, s + x, seen⟩ : Quotient).Holds divisor v
      (r * tenTo x % divisor) → rest = some z → z.IsRounded v)
    (found : (if q * tenTo x + r * tenTo x / divisor < mantissaBound then rest
      else if s + (x : ℤ) ≤ 0 then none
      else some ⟨dropLast (q * tenTo x + r * tenTo x / divisor) (r * tenTo x % divisor),
        s + x - 1, seen⟩) = some z) : z.IsRounded v := by
  have divides : 0 < divisor := Nat.zero_lt_of_lt h.below
  split at found
  case isTrue inside =>
    exact next ⟨h.extend x, Nat.mod_lt _ divides, inside, allowed⟩ found
  case isFalse full =>
    split at found
    case isTrue => cases found
    case isFalse places =>
      cases found
      obtain ⟨n, scale⟩ := Int.eq_ofNat_of_zero_le (Int.le_sub_one_of_lt (not_le.mp places))
      rw [scale]
      exact isRounded_dropLast h few allowed room (by omega) (not_lt.mp full) seen

/-- What a division comes to is the exact quotient rounded. -/
theorem isRounded_divideFrom {divisor fuel r : ℕ} {v : ℚ} {x z : Quotient}
    (h : x.Holds divisor v r) (found : divideFrom divisor fuel r x = some z) : z.IsRounded v := by
  induction fuel generalizing r x with
  | zero => cases found
  | succ fuel ih =>
      obtain ⟨q, s, inexact⟩ := x
      unfold divideFrom at found
      simp only at found
      split at found
      case isTrue none =>
        subst none
        split at found
        case isTrue whole =>
          cases found
          exact h.isRounded_of_exact whole
        case isFalse negative =>
          split at found
          case isTrue room =>
            have toZero : s + (min 9 (-s).toNat : ℕ) ≤ maxScale := by
              simp only [maxScale]
              omega
            exact isRounded_extended h (min_le_left _ _) toZero room inexact ih found
          case isFalse => cases found
      case isFalse left =>
        obtain ⟨few, allowed, room, last⟩ := widestStep_spec h.inside h.allowed
        split at found
        case isTrue => cases found
        case isFalse whole =>
          split at found
          case isTrue step =>
            obtain ⟨places, rfl⟩ : ∃ places : ℕ, s = places :=
              Int.eq_ofNat_of_zero_le (by omega)
            exact isRounded_last h (last step) found
          case isFalse => exact isRounded_extended h few allowed room true ih found

/-- A mantissa and its scale with some of the zeros at the end dropped. -/
def Trims (x y : ℕ × ℕ) : Prop := ∃ k, x.1 = y.1 * tenTo k ∧ x.2 = y.2 + k

theorem Trims.refl (x : ℕ × ℕ) : Trims x x := ⟨0, by simp, rfl⟩

theorem Trims.trans {x y z : ℕ × ℕ} (h : Trims x y) (h' : Trims y z) : Trims x z := by
  obtain ⟨k, mantissa, scale⟩ := h
  obtain ⟨k', mantissa', scale'⟩ := h'
  refine ⟨k' + k, ?_, by omega⟩
  rw [mantissa, mantissa', tenTo_add, mul_assoc]

theorem trims_dropZeroGroup (k : ℕ) (x : ℕ × ℕ) : Trims x (dropZeroGroup k x) := by
  unfold dropZeroGroup
  split
  case isTrue zeros =>
    refine ⟨k, (Nat.div_mul_cancel (Nat.dvd_of_mod_eq_zero zeros.2)).symm, ?_⟩
    simp only
    omega
  case isFalse => exact .refl x

theorem trims_dropEightZeros (n q s : ℕ) : Trims (q, s) (dropEightZeros n q s) := by
  induction n generalizing q s with
  | zero => exact .refl _
  | succ n ih =>
      unfold dropEightZeros
      split
      case isTrue zeros =>
        refine Trims.trans ⟨8, ?_, ?_⟩ (ih _ _)
        · exact (Nat.div_mul_cancel (Nat.dvd_of_mod_eq_zero zeros.2.2)).symm
        · simp only
          omega
      case isFalse => exact .refl _

theorem trims_dropQuotientZeros (q s : ℕ) : Trims (q, s) (dropQuotientZeros q s) :=
  (((trims_dropEightZeros _ q s).trans (trims_dropZeroGroup 4 _)).trans
    (trims_dropZeroGroup 2 _)).trans (trims_dropZeroGroup 1 _)

theorem dropZeroGroup_snd_le (k : ℕ) (x : ℕ × ℕ) : (dropZeroGroup k x).2 ≤ x.2 := by
  obtain ⟨j, -, scale⟩ := trims_dropZeroGroup k x
  omega

theorem dropZeroGroup_mul {n k s : ℕ} (enough : k ≤ s) :
    dropZeroGroup k (n * tenTo k, s) = (n, s - k) := by
  simp [dropZeroGroup, enough, tenTo_pos]

/-- Of nine places that end in five zeros, four are left at most. -/
theorem dropQuotientZeros_snd_le (n : ℕ) : (dropQuotientZeros (n * tenTo 5) 9).2 ≤ 4 := by
  have eight : dropEightZeros (9 / 8) (n * tenTo 5) 9 = (n * tenTo 5, 9) ∨
      (dropEightZeros (9 / 8) (n * tenTo 5) 9).2 = 1 := by
    change (if _ then _ else _) = _ ∨ (if _ then _ else _ : ℕ × ℕ).2 = _
    split_ifs
    · exact Or.inr rfl
    · exact Or.inl rfl
  unfold dropQuotientZeros
  obtain unchanged | short := eight
  · have four : n * tenTo 5 = n * 10 * tenTo 4 := by rw [tenTo_succ 4]; ring
    rw [unchanged, four, dropZeroGroup_mul (by decide)]
    by_cases two : n * 10 % tenTo 2 = 0
    · obtain ⟨m, split⟩ := Nat.dvd_of_mod_eq_zero two
      rw [split, mul_comm, dropZeroGroup_mul (by decide)]
      exact (dropZeroGroup_snd_le 1 (m, 3)).trans (by simp only; decide)
    · have kept : dropZeroGroup 2 (n * 10, 5) = (n * 10, 5) := if_neg (by simp [two])
      rw [kept]
      exact (congrArg Prod.snd (dropZeroGroup_mul (k := 1) (by decide))).le
  · have few := (dropZeroGroup_snd_le 1 _).trans <|
      (dropZeroGroup_snd_le 2 _).trans <| dropZeroGroup_snd_le 4 <|
        dropEightZeros (9 / 8) (n * tenTo 5) 9
    omega

/-- Zeros at the end do not count. -/
theorem Trims.magnitude {x y : ℕ × ℕ} (h : Trims x y) (negative : Bool) :
    magnitude ⟨negative, y.1, y.2⟩ = magnitude ⟨negative, x.1, x.2⟩ := by
  obtain ⟨k, mantissa, scale⟩ := h
  simp only [Decimal.magnitude, mantissa, scale, pow_add]
  push_cast
  rw [cast_tenTo]
  field_simp

theorem Trims.valid {x y : ℕ × ℕ} {negative : Bool} (h : Trims x y)
    (valid : Valid ⟨negative, x.1, x.2⟩) : Valid ⟨negative, y.1, y.2⟩ := by
  obtain ⟨k, mantissa, scale⟩ := h
  obtain ⟨inside, allowed⟩ := valid
  simp only at inside allowed
  have less : y.1 ≤ x.1 := mantissa ▸ Nat.le_mul_of_pos_right _ (tenTo_pos k)
  exact ⟨by simp only; omega, by simp only; omega⟩

/-- A quotient of decimals is zero, or what the division of the mantissas comes to with zeros at the
end dropped, with the sign of a product. -/
theorem div?_cases {x y z : Decimal} (quotient : x.div? y = some z) :
    y.mantissa ≠ 0 ∧ (x.mantissa = 0 ∧ z = zero ∨
      ∃ found : Quotient,
        divideFrom y.mantissa (((maxScale : ℤ) - ((x.scale : ℤ) - y.scale)).toNat + 2)
          (x.mantissa % y.mantissa)
          ⟨x.mantissa / y.mantissa, (x.scale : ℤ) - y.scale, false⟩ = some found ∧
        Trims (found.q, found.s.toNat) (z.mantissa, z.scale) ∧
        z.negative = (x.negative != y.negative)) := by
  unfold div? at quotient
  split at quotient
  case isTrue => cases quotient
  case isFalse divides =>
    refine ⟨divides, ?_⟩
    split at quotient
    case isTrue none =>
      cases quotient
      exact Or.inl ⟨none, rfl⟩
    case isFalse =>
      obtain ⟨found, divided, shown⟩ := Option.bind_eq_some_iff.mp quotient
      refine Or.inr ⟨found, divided, ?_⟩
      simp only [pure, Option.some.injEq] at shown
      split at shown
      case isTrue =>
        cases shown
        exact ⟨trims_dropQuotientZeros _ _, rfl⟩
      case isFalse =>
        cases shown
        exact ⟨.refl _, rfl⟩

theorem not_negative_of_div? {x y z : Decimal} (quotient : x.div? y = some z)
    (left : x.negative = false) (right : y.negative = false) : z.negative = false := by
  obtain ⟨-, ⟨-, rfl⟩ | ⟨found, -, -, sign⟩⟩ := div?_cases quotient
  · rfl
  · rw [sign, left, right, bne_self_eq_false]

/-- The whole part of a quotient and the remainder are where a division starts. -/
theorem holds_start {x y : Decimal} (valid : x.Valid) (divides : y.mantissa ≠ 0) :
    Quotient.Holds y.mantissa (x.magnitude / y.magnitude) (x.mantissa % y.mantissa)
      ⟨x.mantissa / y.mantissa, (x.scale : ℤ) - y.scale, false⟩ := by
  have positive : (0 : ℚ) < y.mantissa := by exact_mod_cast Nat.pos_of_ne_zero divides
  refine ⟨?exact, Nat.mod_lt _ (Nat.pos_of_ne_zero divides),
    (Nat.div_le_self _ _).trans_lt valid.1, ?allowed⟩
  case exact =>
    have whole : ((y.mantissa * (x.mantissa / y.mantissa) + x.mantissa % y.mantissa : ℕ) : ℚ)
        = x.mantissa := congrArg _ (Nat.div_add_mod _ _)
    rw [zpow_sub₀ (by norm_num), zpow_natCast, zpow_natCast, magnitude, magnitude]
    push_cast at whole
    field_simp
    linarith
  case allowed =>
    have places := valid.2
    simp only
    omega

/-- A quotient is the exact quotient rounded, with zeros at the end dropped. -/
theorem exists_isRounded_div? {x y z : Decimal} (valid : x.Valid) (quotient : x.div? y = some z) :
    ∃ w : Decimal, w.IsRounded (x.magnitude / y.magnitude) ∧
      Trims (w.mantissa, w.scale) (z.mantissa, z.scale) := by
  obtain ⟨divides, ⟨none, rfl⟩ | ⟨found, divided, trims, -⟩⟩ := div?_cases quotient
  · refine ⟨zero, .exact (by decide) ?_, .refl _⟩
    rw [magnitude_zero, magnitude_eq_zero.mpr none, zero_div]
  · obtain ⟨-, rounded⟩ := isRounded_divideFrom (holds_start valid divides) divided
    exact ⟨_, rounded z.negative, trims⟩

/-- A quotient is near the exact quotient. -/
theorem isNear_div? {x y z : Decimal} (valid : x.Valid) (quotient : x.div? y = some z) :
    z.IsNear (x.magnitude / y.magnitude) := by
  obtain ⟨⟨negative, mantissa, scale⟩, rounded, trims⟩ := exists_isRounded_div? valid quotient
  have near := rounded.isNear
  refine ⟨trims.valid near.valid, ?_⟩
  rw [trims.magnitude z.negative]
  exact near.near

/-- A short number has room for nine digits more, behind its quotient by a power of ten. -/
theorem nine_digits_lt {n k : ℕ} (small : n < twoTo 32) :
    n / tenTo k * tenTo 9 + n % tenTo k * tenTo 9 / tenTo k < mantissaBound := by
  have part : n % tenTo k * tenTo 9 / tenTo k < tenTo 9 := by
    rw [Nat.div_lt_iff_lt_mul (tenTo_pos k), mul_comm (tenTo 9)]
    exact Nat.mul_lt_mul_of_pos_right (Nat.mod_lt _ (tenTo_pos k)) (tenTo_pos 9)
  have bound : n / tenTo k * tenTo 9 ≤ twoTo 32 * tenTo 9 :=
    Nat.mul_le_mul_right _ ((Nat.div_le_self _ _).trans small.le)
  have large : twoTo 32 * tenTo 9 + tenTo 9 < mantissaBound := by decide
  omega

/-- A short number divided by a short power of ten comes out after one step. -/
theorem divideFrom_tenTo {n k fuel : ℕ} (small : n < twoTo 32) (few : k ≤ 9) :
    divideFrom (tenTo k) (fuel + 2) (n % tenTo k) ⟨n / tenTo k, 0, false⟩ =
      some (if n % tenTo k = 0 then ⟨n / tenTo k, 0, false⟩
        else ⟨n * tenTo (9 - k), 9, true⟩) := by
  rw [divideFrom]
  simp only [le_refl, if_true]
  split
  case isTrue none => rfl
  case isFalse left =>
    have inside := nine_digits_lt (k := k) small
    have step := widestStep_eq_nine (s := 0) (by decide) ((Nat.le_add_right _ _).trans_lt inside)
    have split : tenTo 9 = tenTo k * tenTo (9 - k) := by
      rw [← tenTo_add, Nat.add_sub_cancel' few]
    have divisible : n % tenTo k * tenTo 9 % tenTo k = 0 := by
      rw [split, mul_left_comm]
      exact Nat.mul_mod_right _ _
    have digits : n / tenTo k * tenTo 9 + n % tenTo k * tenTo 9 / tenTo k =
        n * tenTo (9 - k) := by
      rw [split, mul_left_comm (n % tenTo k), Nat.mul_div_cancel_left _ (tenTo_pos k), ← mul_assoc,
        ← Nat.add_mul, Nat.div_add_mod']
    have some : (9 : ℕ) ≠ 0 := by decide
    simp only [step, lt_irrefl, false_and, if_false, some, inside, if_true]
    rw [divideFrom, divisible, digits, if_pos rfl, if_pos (by decide)]
    rfl

/-- A short number divided by a short power of ten, with zeros at the end dropped if there are
places. -/
theorem div?_tenTo {n k : ℕ} (small : n < twoTo 32) (few : k ≤ 9) :
    (ofNat n).div? (ofNat (tenTo k)) =
      some (if n % tenTo k = 0 then ofNat (n / tenTo k)
        else ⟨false, (dropQuotientZeros (n * tenTo (9 - k)) 9).1,
          (dropQuotientZeros (n * tenTo (9 - k)) 9).2⟩) := by
  have divides : (ofNat (tenTo k)).mantissa ≠ 0 := (tenTo_pos k).ne'
  unfold div?
  rw [if_neg divides]
  split
  case isTrue none =>
    have none : n = 0 := none
    simp [none, ofNat, zero]
  case isFalse =>
    have start := @divideFrom_tenTo n k 28 small few
    simp only [ofNat, Nat.cast_zero, sub_zero, maxScale] at start ⊢
    rw [show ((28 : ℕ) : ℤ).toNat + 2 = 28 + 2 from rfl, start]
    split_ifs <;> rfl

/-- A number of basis points below the bound of machine words is a decimal exactly. -/
theorem magnitude_div?_tenTo {n k : ℕ} {z : Decimal} (small : n < twoTo 32) (few : k ≤ 9)
    (quotient : (ofNat n).div? (ofNat (tenTo k)) = some z) : z.magnitude = n / 10 ^ k := by
  rw [div?_tenTo small few, Option.some.injEq] at quotient
  subst quotient
  split_ifs with whole
  · have positive : ((tenTo k : ℕ) : ℚ) ≠ 0 := by exact_mod_cast (tenTo_pos k).ne'
    rw [magnitude_ofNat, Nat.cast_div (Nat.dvd_of_mod_eq_zero whole) positive, cast_tenTo]
  · rw [(trims_dropQuotientZeros (n * tenTo (9 - k)) 9).magnitude, magnitude]
    push_cast
    rw [cast_tenTo, pow_sub₀ (10 : ℚ) (by norm_num) few]
    field_simp

end Decimal

end RebateRelay.Number
