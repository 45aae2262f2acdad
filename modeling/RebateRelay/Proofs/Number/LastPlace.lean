import RebateRelay.Proofs.Number.Rounding

/-!
# Rounding at the last place

Which number an operation on decimals comes to depends on the exact result and on nothing else, in
particular not on how the operands are written. It is the nearest whole number of units, the even
one where two are equally near, in the last place for which there is room. So a larger number is
never rounded to a smaller one; and there is a result for every number that is more than half a unit
below the bound of mantissas, and for no other.
-/

namespace RebateRelay.Number

/-- The whole number nearest to a number, and the even one where two are equally near. -/
structure IsNearestEven (m : ℕ) (x : ℚ) : Prop where
  near : |(m : ℚ) - x| ≤ 1 / 2
  even : |(m : ℚ) - x| = 1 / 2 → m % 2 = 0

namespace IsNearestEven

variable {m n : ℕ} {x y : ℚ}

theorem of_eq (whole : x = m) : IsNearestEven m x := by
  subst whole
  constructor <;> simp

theorem of_abs_lt (near : |(m : ℚ) - x| < 1 / 2) : IsNearestEven m x :=
  ⟨near.le, fun half => absurd half near.ne⟩

/-- A larger number is rounded to one that is no smaller. -/
theorem mono (h : IsNearestEven m x) (h' : IsNearestEven n y) (le : x ≤ y) : m ≤ n := by
  by_contra less
  have next : (n : ℚ) + 1 ≤ m := by exact_mod_cast Nat.succ_le_of_lt (not_le.mp less)
  obtain ⟨-, high⟩ := abs_le.mp h.near
  obtain ⟨low, -⟩ := abs_le.mp h'.near
  -- Both would be halfway between the two, and both whole numbers even.
  have above : (m : ℚ) - x = 1 / 2 := by linarith
  have below : (n : ℚ) - y = -(1 / 2) := by linarith
  have even := h.even (by rw [above, abs_of_pos (by norm_num)])
  have even' := h'.even (by rw [below, abs_neg, abs_of_pos (by norm_num)])
  have follows : (m : ℚ) = n + 1 := by linarith
  have follows : m = n + 1 := by exact_mod_cast follows
  omega

/-- A number is rounded to less than an even one when it is more than a half below it. -/
theorem lt_iff (h : IsNearestEven m x) (even : n % 2 = 0) : m < n ↔ x < n - 1 / 2 := by
  obtain ⟨low, high⟩ := abs_le.mp h.near
  constructor
  · intro less
    have next : (m : ℚ) + 1 ≤ n := by exact_mod_cast Nat.succ_le_of_lt less
    refine lt_of_le_of_ne (by linarith) fun half => ?_
    -- Halfway below an even number the one before it is odd.
    have last : (m : ℚ) + 1 = n := by linarith
    have half : |(m : ℚ) - x| = 1 / 2 := by
      rw [abs_sub_comm, abs_of_nonneg] <;> linarith
    have odd := h.even half
    have last : m + 1 = n := by exact_mod_cast last
    omega
  · intro far
    have less : (m : ℚ) < n := by linarith
    exact_mod_cast less

end IsNearestEven

theorem isNearestEven_roundHalfEven {n d : ℕ} (hd : 0 < d) :
    IsNearestEven (roundHalfEven n d) (n / d) := by
  refine ⟨abs_roundHalfEven_sub_le hd, fun half => ?_⟩
  have positive : (0 : ℚ) < d := by exact_mod_cast hd
  have whole : (n : ℚ) / d = (n / d : ℕ) + (n % d : ℕ) / d := by
    rw [add_div' _ _ _ positive.ne']
    congr 1
    exact_mod_cast (Nat.div_add_mod' n d).symm
  have below : ((n % d : ℕ) : ℚ) / d < 1 := by
    rw [div_lt_one positive]
    exact_mod_cast Nat.mod_lt n hd
  have none : (0 : ℚ) ≤ ((n % d : ℕ) : ℚ) / d := by positivity
  rw [whole] at half
  unfold roundHalfEven at half ⊢
  simp only at half ⊢
  split_ifs at half ⊢ with low high even
  · rw [sub_add_cancel_left, abs_neg, abs_of_nonneg none, div_eq_iff positive.ne'] at half
    have twice : 2 * (n % d) = d := by
      have twice : 2 * ((n % d : ℕ) : ℚ) = d := by linarith
      exact_mod_cast twice
    omega
  · push_cast at half
    rw [add_sub_add_left_eq_sub, abs_of_pos (by linarith), sub_eq_iff_eq_add,
      ← sub_eq_iff_eq_add', eq_div_iff positive.ne'] at half
    have twice : 2 * (n % d) = d := by
      have twice : 2 * ((n % d : ℕ) : ℚ) = d := by linarith
      exact_mod_cast twice
    omega
  · exact even
  · omega

namespace Decimal

/-- Numbers from here on are rounded to the bound of mantissas or beyond. -/
def limit : ℚ := 2 ^ 96 - 1 / 2

theorem limit_pos : 0 < limit := by
  norm_num [limit]

/-- The last of the places that are allowed at which a number does not outgrow a mantissa. -/
structure IsLastPlace (v : ℚ) (k : ℕ) : Prop where
  allowed : k ≤ maxScale
  room : v * 10 ^ k < limit
  last : k = maxScale ∨ limit ≤ v * 10 ^ (k + 1)

/-- A number and what it is rounded to. -/
inductive RoundsTo (v : ℚ) : ℚ → Prop
  | intro {k m : ℕ} (place : IsLastPlace v k) (nearest : IsNearestEven m (v * 10 ^ k)) :
      RoundsTo v (m / 10 ^ k)

/-- A rounded mantissa is in range as long as the number is below the limit. -/
theorem lt_mantissaBound_iff {m : ℕ} {x : ℚ} (nearest : IsNearestEven m x) :
    m < mantissaBound ↔ x < limit := by
  rw [nearest.lt_iff (by decide : mantissaBound % 2 = 0), cast_mantissaBound, limit]

theorem cast_lt_limit {m : ℕ} (inside : m < mantissaBound) : (m : ℚ) < limit :=
  (lt_mantissaBound_iff (.of_eq rfl)).mp inside

/-! ## The last place -/

/-- Where there is room at some place, there is a last one. -/
theorem exists_isLastPlace {v : ℚ} {k : ℕ} (allowed : k ≤ maxScale) (room : v * 10 ^ k < limit) :
    ∃ j, k ≤ j ∧ IsLastPlace v j := by
  refine ⟨Nat.findGreatest (fun i => v * 10 ^ i < limit) maxScale,
    Nat.le_findGreatest allowed room, Nat.findGreatest_le _,
    @Nat.findGreatest_spec k (fun i => v * 10 ^ i < limit) _ maxScale allowed room, ?_⟩
  refine or_iff_not_imp_left.mpr fun more => ?_
  apply not_lt.mp
  exact @Nat.findGreatest_is_greatest _ (fun i => v * 10 ^ i < limit) _ maxScale
    (Nat.lt_succ_self _) (lt_of_le_of_ne (Nat.findGreatest_le _) more)

/-- A larger number has its last place no later. -/
theorem IsLastPlace.le {v w : ℚ} {k j : ℕ} (h : IsLastPlace v k) (h' : IsLastPlace w j)
    (le : v ≤ w) : j ≤ k := by
  by_contra before
  have few := h'.allowed
  rcases h.last with all | full
  · omega
  have large : limit ≤ w * 10 ^ (k + 1) := full.trans (by gcongr)
  have positive : 0 ≤ w := by
    by_contra negative
    have below : w * 10 ^ (k + 1) < 0 := mul_neg_of_neg_of_pos (not_le.mp negative) (by positivity)
    linarith [limit_pos]
  have more : w * 10 ^ (k + 1) ≤ w * 10 ^ j := by
    gcongr
    · norm_num
    · omega
  exact absurd h'.room (not_lt.mpr (large.trans more))

namespace RoundsTo

variable {v w v' w' : ℚ}

/-- A larger number is rounded to one that is no smaller, at whatever places the two end. -/
theorem mono (h : RoundsTo v w) (h' : RoundsTo v' w') (le : v ≤ v') : w ≤ w' := by
  obtain @⟨k, m, place, nearest⟩ := h
  obtain @⟨k', m', place', nearest'⟩ := h'
  rcases Nat.eq_or_lt_of_le (place.le place' le) with same | fewer
  · subst same
    have whole : m ≤ m' := nearest.mono nearest' (by gcongr)
    gcongr
  · -- With a place more the smaller number still is in range and the larger one is not.
    have inside := (lt_mantissaBound_iff nearest).mpr place.room
    have full : limit ≤ v' * 10 ^ k' * 10 := by
      rcases place'.last with all | full
      · have few := place.allowed
        omega
      · rwa [pow_succ, ← mul_assoc] at full
    have digits : 2 * (2 : ℚ) ^ 96 ≤ 20 * m' + 11 := by
      obtain ⟨low, high⟩ := abs_le.mp nearest'.near
      rw [limit] at full
      linarith
    have digits : 2 * mantissaBound ≤ 20 * m' + 11 := by
      unfold mantissaBound twoTo
      exact_mod_cast digits
    have bound : mantissaBound = 79228162514264337593543950336 := by decide
    have whole : m ≤ m' * tenTo 1 := by
      rw [tenTo_succ, tenTo_zero]
      omega
    obtain ⟨j, rfl⟩ := Nat.exists_eq_add_of_lt fewer
    rw [div_le_div_iff₀ (by positivity) (by positivity)]
    calc (m : ℚ) * 10 ^ k' ≤ (m' * tenTo 1 : ℕ) * 10 ^ k' := by gcongr
      _ = m' * 10 ^ (k' + 1) := by push_cast; rw [cast_tenTo]; ring
      _ ≤ m' * 10 ^ (k' + j + 1) := by
        gcongr
        · norm_num
        · exact Nat.le_add_right k' j

/-- There is one number that a number is rounded to. -/
theorem unique (h : RoundsTo v w) (h' : RoundsTo v w') : w = w' :=
  le_antisymm (h.mono h' le_rfl) (h'.mono h le_rfl)

theorem nonneg (h : RoundsTo v w) : 0 ≤ w := by
  cases h
  positivity

theorem lt_limit (h : RoundsTo v w) : v < limit := by
  obtain @⟨k, m, place, nearest⟩ := h
  by_contra large
  have least := limit_pos.le.trans (not_lt.mp large)
  have more : v * 1 ≤ v * 10 ^ k := by
    gcongr
    exact one_le_pow₀ (by norm_num)
  linarith [place.room]

end RoundsTo

/-- A decimal in range is rounded to itself. -/
theorem roundsTo_magnitude {z : Decimal} (valid : z.Valid) :
    RoundsTo z.magnitude z.magnitude := by
  have unit : (0 : ℚ) < 10 ^ z.scale := by positivity
  have whole : z.magnitude * 10 ^ z.scale = z.mantissa := div_mul_cancel₀ _ unit.ne'
  obtain ⟨j, more, place⟩ :=
    exists_isLastPlace valid.2 (by rw [whole]; exact cast_lt_limit valid.1)
  obtain ⟨i, rfl⟩ := Nat.exists_eq_add_of_le more
  have digits : z.magnitude * 10 ^ (z.scale + i) = (z.mantissa * tenTo i : ℕ) := by
    rw [pow_add, ← mul_assoc, whole]
    push_cast
    rw [cast_tenTo]
  have rounded := RoundsTo.intro place (.of_eq digits)
  rwa [← digits, mul_div_cancel_right₀ _ (by positivity)] at rounded

/-! ## A mantissa that may be full -/

section Settle

variable {negative : Bool} {m places : ℕ} {v : ℚ}

/-- A mantissa that is rounded at the last place, or at the one behind it to the bound, makes what
the number is rounded to. -/
theorem roundsTo_of_settle? {z : Decimal} (nearest : IsNearestEven m (v * 10 ^ places))
    (inside : m ≤ mantissaBound) (allowed : places ≤ maxScale)
    (needed : places = maxScale ∨ limit ≤ v * 10 ^ (places + 1))
    (settled : settle? negative m places = some z) : RoundsTo v z.magnitude := by
  unfold settle? at settled
  split at settled
  case isTrue fits =>
    cases settled
    exact .intro ⟨allowed, (lt_mantissaBound_iff nearest).mp fits, needed⟩ nearest
  case isFalse full =>
    have all : m = mantissaBound := by omega
    subst all
    cases places with
    | zero => cases settled
    | succ places =>
        cases settled
        -- The bound is six units above a whole number of tens, and less than half of one off.
        have cut := cast_shortened_bound
        obtain ⟨low, high⟩ := abs_le.mp nearest.near
        rw [cast_mantissaBound, pow_succ (10 : ℚ), ← mul_assoc] at low high
        have rounded : RoundsTo v (((mantissaBound + 5) / 10 : ℕ) / 10 ^ places) := by
          refine .intro ⟨by omega, ?room, Or.inr ?last⟩ (.of_abs_lt ?near)
          case room =>
            rw [limit]
            linarith
          case last =>
            rw [limit, pow_succ (10 : ℚ), ← mul_assoc]
            linarith
          case near =>
            rw [abs_lt]
            constructor <;> linarith
        exact rounded

/-- A mantissa that cannot be settled is that of a number without a result. -/
theorem limit_le_of_settle?_eq_none (nearest : IsNearestEven m (v * 10 ^ places))
    (full : settle? negative m places = none) : limit ≤ v := by
  unfold settle? at full
  split_ifs at full with fits none
  subst none
  rw [lt_mantissaBound_iff nearest, pow_zero, mul_one, not_lt] at fits
  exact fits

end Settle

/-! ## Products -/

theorem Cut.roundsTo {negative : Bool} {p s : ℕ} {z : Decimal} (cut : Cut negative p s z) :
    RoundsTo (p / 10 ^ s) z.magnitude := by
  have unit : (0 : ℚ) < 10 ^ s := by positivity
  cases cut with
  | nothing none =>
      have same : (p : ℚ) / 10 ^ s = zero.magnitude := by simp [none]
      rw [same]
      exact roundsTo_magnitude (by decide)
  | vanishes small long =>
      have tiny : (p : ℚ) / 10 ^ s * 10 ^ maxScale < 1 / 2 := by
        have places : (10 : ℚ) ^ 48 ≤ 10 ^ s := pow_le_pow_right₀ (by norm_num) long
        have bits : (p : ℚ) ≤ 2 ^ 64 := by exact_mod_cast small.le
        rw [div_mul_eq_mul_div, div_lt_iff₀ unit, maxScale]
        linarith
      have nonneg : (0 : ℚ) ≤ p / 10 ^ s * 10 ^ maxScale := by positivity
      have nearest : IsNearestEven 0 ((p : ℚ) / 10 ^ s * 10 ^ maxScale) := by
        refine .of_abs_lt ?_
        rwa [Nat.cast_zero, zero_sub, abs_neg, abs_of_nonneg nonneg]
      have rounded := RoundsTo.intro ⟨le_rfl, tiny.trans (by norm_num [limit]), Or.inl rfl⟩ nearest
      rwa [Nat.cast_zero, zero_div, ← magnitude_zero] at rounded
  | fits inside allowed => exact @roundsTo_magnitude ⟨negative, p, s⟩ ⟨inside, allowed⟩
  | rounds d dropped inside allowed needed settled =>
      refine roundsTo_of_settle? ?_ ?_ allowed ?_ settled
      · rw [div_mul_tenTo dropped]
        exact isNearestEven_roundHalfEven (tenTo_pos d)
      · exact (roundHalfEven_le_succ _ _).trans inside
      · refine needed.imp_right fun wide => ?_
        have counts : (2 : ℚ) ^ 96 * (tenTo d : ℕ) ≤ 10 * p := by
          rw [← cast_mantissaBound]
          exact_mod_cast wide
        rw [pow_succ, ← mul_assoc, div_mul_tenTo dropped, div_mul_eq_mul_div,
          le_div_iff₀ (by exact_mod_cast tenTo_pos d), limit]
        have positive : (0 : ℚ) ≤ (tenTo d : ℕ) := Nat.cast_nonneg _
        linarith

/-- A product is the exact product rounded. -/
theorem roundsTo_mul? {x y z : Decimal} (product : x.mul? y = some z) :
    RoundsTo (x.magnitude * y.magnitude) z.magnitude := by
  rw [magnitude_mul_magnitude]
  exact (cut_mul? product).roundsTo

/-- Digits are not dropped in vain: what does not fit without all that may go is too large. -/
theorem le_div_of_dropToFit_eq_none {p left d : ℕ} (none : dropToFit p left d = none) :
    mantissaBound ≤ p / tenTo (d + left) := by
  induction left generalizing d with
  | zero =>
      unfold dropToFit at none
      split at none
      case isTrue => cases none
      case isFalse large => exact not_lt.mp large
  | succ left ih =>
      unfold dropToFit at none
      split at none
      case isTrue => cases none
      case isFalse =>
        have more := ih none
        rwa [Nat.add_right_comm] at more

/-- A product that is not in range is too large. -/
theorem limit_le_of_mul?_eq_none {x y : Decimal} (none : x.mul? y = none) :
    limit ≤ x.magnitude * y.magnitude := by
  have large : ∀ {p s : ℕ}, mantissaBound ≤ p / tenTo s → limit ≤ (p : ℚ) / 10 ^ s := by
    intro p s large
    have quotient : (mantissaBound : ℚ) ≤ (p / tenTo s : ℕ) := by exact_mod_cast large
    have cut : ((p / tenTo s : ℕ) : ℚ) ≤ p / (tenTo s : ℕ) := Nat.cast_div_le
    rw [cast_mantissaBound] at quotient
    rw [cast_tenTo] at cut
    rw [limit]
    linarith
  rw [magnitude_mul_magnitude]
  unfold mul? at none
  generalize x.mantissa * y.mantissa = p at none ⊢
  generalize x.scale + y.scale = s at none ⊢
  simp only at none
  split_ifs at none with zero short long places fits excess
  · -- More digits would have to go than there are places.
    apply large
    rw [Nat.le_div_iff_mul_le (tenTo_pos s)]
    have wide := excessDigits_le (p := p) (by omega)
    have more : mantissaBound * tenTo (s + 1) ≤ mantissaBound * tenTo (excessDigits p) :=
      Nat.mul_le_mul_left _ (tenTo_le_tenTo.mpr excess)
    rw [tenTo_succ, ← mul_assoc] at more
    omega
  · simp only [Option.bind_eq_bind, Option.bind_eq_none_iff] at none
    cases found : dropToFit p (s - max (excessDigits p) (s - maxScale))
        (max (excessDigits p) (s - maxScale)) with
    | none =>
        have all := le_div_of_dropToFit_eq_none found
        rw [Nat.add_sub_cancel' (by omega)] at all
        exact large all
    | some d =>
        obtain ⟨-, dropped, -, -⟩ := dropToFit_spec found
        refine limit_le_of_settle?_eq_none ?_ (none d found)
        rw [div_mul_tenTo (by omega)]
        exact isNearestEven_roundHalfEven (tenTo_pos d)

/-- There is a product when the exact one is below the limit. -/
theorem exists_mul?_iff {x y : Decimal} :
    (∃ z, x.mul? y = some z) ↔ x.magnitude * y.magnitude < limit := by
  constructor
  · rintro ⟨z, product⟩
    exact (roundsTo_mul? product).lt_limit
  · intro small
    cases product : x.mul? y with
    | none => exact absurd small (not_lt.mpr (limit_le_of_mul?_eq_none product))
    | some z => exact ⟨z, rfl⟩

end Decimal

end RebateRelay.Number
