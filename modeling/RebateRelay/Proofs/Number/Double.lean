import Mathlib
import RebateRelay.Number.Decimal

/-!
# Doubles and their signs

Doubles are compared, added and multiplied after they have been taken apart into a sign, a whole
number and a power of two. What is needed of that is said here of the doubles themselves: one that
is above zero has no sign bit, and one that can be compared is a number. A decimal has the sign of
its double, and if it has places at all, its digits are few and do not end in a zero.
-/

namespace RebateRelay.Number

open Float.Model (UnpackedFloat)
open Float.Model.UnpackedFloat (unpackSign Sign.ofBitVec)

/-- Zero, taken apart. -/
theorem unpack_zero : (0 : Float).toModel.unpack = .zero .positive := rfl

/-- Doubles are compared by their parts. -/
theorem lt_iff_unpack {x y : Float} :
    x < y ↔ x.toModel.unpack.lt y.toModel.unpack = true := decide_eq_true_iff

theorem le_iff_unpack {x y : Float} :
    x ≤ y ↔ x.toModel.unpack.le y.toModel.unpack = true := decide_eq_true_iff

theorem isNaN_of_isFinite {x : Float} (finite : x.isFinite = true) : x.isNaN = false := by
  change x.toModel.unpack.isNaN = false
  have finite : x.toModel.unpack.isFinite = true := finite
  cases unpacked : x.toModel.unpack with
  | notANumber => simp [unpacked, UnpackedFloat.isFinite] at finite
  | zero s => rfl
  | finite s m e positive => rfl
  | infinity s => rfl

/-- What is at least some number is a number. -/
theorem isNaN_of_le {x y : Float} (least : y ≤ x) : x.isNaN = false := by
  rw [le_iff_unpack] at least
  change x.toModel.unpack.isNaN = false
  cases unpacked : x.toModel.unpack with
  | notANumber =>
      rw [unpacked] at least
      cases lower : y.toModel.unpack <;>
        simp [lower, UnpackedFloat.le, UnpackedFloat.compare] at least
  | zero s => rfl
  | finite s m e positive => rfl
  | infinity s => rfl

/-- The leading bit is the sign. -/
theorem unpackSign_eq_zero {b : BitVec 64} :
    @unpackSign .binary64 b = 0#1 ↔ b.toNat < twoTo 63 := by
  have bound := b.isLt
  rw [← BitVec.toNat_inj]
  simp only [unpackSign, BitVec.toNat_cast, BitVec.extractLsb_toNat, Nat.shiftRight_eq_div_pow,
    twoTo]
  simp
  omega

theorem signBit_of_pos {x : Float} (positive : 0 < x) : signBit x = false := by
  have below : UnpackedFloat.compare (.zero .positive) x.toModel.unpack = some .lt := by
    rw [lt_iff_unpack, unpack_zero] at positive
    exact eq_of_beq positive
  have sign : @unpackSign .binary64 x.toModel.toBits.toBitVec = 0#1 := by
    by_contra other
    simp only [Float.Model.unpack, UnpackedFloat.unpack, Sign.ofBitVec, if_neg other] at below
    split_ifs at below <;> simp [UnpackedFloat.compare] at below
  exact decide_eq_false (Nat.not_le.mpr (unpackSign_eq_zero.mp sign))

namespace Decimal

theorem negative_of_ofBinary? {x : Binary64} {d : Decimal} (converted : ofBinary? x = some d) :
    d.negative = x.negative := by
  unfold ofBinary? at converted
  split at converted
  case isTrue =>
    cases converted
    rfl
  case isFalse =>
    simp only [Option.bind_eq_bind] at converted
    split at converted <;>
      obtain ⟨fives, _, converted⟩ := Option.bind_eq_some_iff.mp converted <;>
      obtain ⟨whole, _, converted⟩ := Option.bind_eq_some_iff.mp converted <;>
      cases converted <;>
      rfl

/-- A decimal has the sign of its double. -/
theorem negative_of_ofFloat? {x : Float} {d : Decimal} (converted : ofFloat? x = some d) :
    d.negative = signBit x := by
  obtain ⟨parts, taken, converted⟩ := Option.bind_eq_some_iff.mp converted
  rw [negative_of_ofBinary? converted]
  unfold Binary64.ofFloat? at taken
  simp only at taken
  split_ifs at taken <;> cases taken <;> rfl

namespace Scaled

/-- Digits go while the integer is too long for a double. -/
theorem dropNoise_eq (n : ℕ) (x : Scaled) :
    ∃ i ≤ n, dropNoise n x = ⟨dropDigit^[i] x.b, x.e10 + i⟩ ∧
      (i = n ∨ dropDigit^[i] x.b < 2 ^ 52) ∧ ∀ j < i, 2 ^ 52 ≤ dropDigit^[j] x.b := by
  induction n generalizing x with
  | zero => exact ⟨0, le_rfl, by simp [dropNoise], Or.inl rfl, fun j less => by omega⟩
  | succ n ih =>
      obtain ⟨b, e⟩ := x
      rw [dropNoise]
      split_ifs with long
      · obtain ⟨i, few, same, stopped, longer⟩ := ih ⟨dropDigit b, e + 1⟩
        refine ⟨i + 1, by omega, ?_, ?_, ?_⟩
        · rw [same, Function.iterate_succ_apply]
          congr 1
          push_cast
          ring
        · rw [Function.iterate_succ_apply]
          exact stopped.imp_left (congrArg (· + 1))
        · intro j less
          cases j with
          | zero => exact long
          | succ j =>
              rw [Function.iterate_succ_apply]
              exact longer j (by omega)
      · exact ⟨0, Nat.zero_le _, by simp, Or.inr (not_le.mp long), fun j less => by omega⟩

/-- Dropping zeros ends at the point or at another digit. -/
theorem dropZeros_spec (n : ℕ) (x : Scaled) :
    (dropZeros n x).b ≤ x.b ∧
      ((dropZeros n x).e10 = x.e10 + n ∨ (dropZeros n x).b % 10 ≠ 0) := by
  induction n generalizing x with
  | zero => exact ⟨le_rfl, Or.inl (add_zero _).symm⟩
  | succ n ih =>
      obtain ⟨b, e⟩ := x
      rw [dropZeros]
      split_ifs with zero
      · obtain ⟨fewer, stopped⟩ := ih ⟨b / 10, e + 1⟩
        refine ⟨fewer.trans (Nat.div_le_self b 10), stopped.imp_left fun point => ?_⟩
        rw [point]
        push_cast
        ring
      · exact ⟨le_rfl, Or.inr zero⟩

/-- What stops at the point has no places. -/
theorem places_of_point {x y : Scaled} (point : y.e10 = x.e10 + x.places) : y.places = 0 := by
  unfold places at point ⊢
  omega

/-- After both, no places are left, or few digits that do not end in a zero. -/
theorem places_dropZeros_dropNoise (x : Scaled) :
    let clean := dropNoise x.places x
    let bare := dropZeros clean.places clean
    bare.places = 0 ∨ bare.b < twoTo 52 ∧ bare.b % 10 ≠ 0 := by
  intro clean bare
  obtain ⟨fewer, stopped⟩ := dropZeros_spec clean.places clean
  obtain ⟨i, -, dropped, point | few, -⟩ := dropNoise_eq x.places x
  · have none : clean.places = 0 := places_of_point (by rw [show clean = _ from dropped, point])
    exact Or.inl (by rw [show bare = clean from by simp only [bare, none, dropZeros], none])
  · have few : clean.b < twoTo 52 := by
      rw [show clean.b = dropDigit^[i] x.b from congrArg Scaled.b dropped]
      exact few
    exact stopped.imp places_of_point fun digit => ⟨fewer.trans_lt few, digit⟩

end Scaled

/-- The decimal of a double has no places, or few digits that do not end in a zero. -/
theorem places_of_ofBinary? {x : Binary64} {d : Decimal} (converted : ofBinary? x = some d) :
    d.scale = 0 ∨ d.mantissa < twoTo 52 ∧ d.mantissa % 10 ≠ 0 := by
  unfold ofBinary? at converted
  split at converted
  case isTrue =>
    cases converted
    exact Or.inl rfl
  case isFalse =>
    simp only [Option.bind_eq_bind] at converted
    split at converted <;>
      obtain ⟨fives, _, converted⟩ := Option.bind_eq_some_iff.mp converted <;>
      obtain ⟨whole, _, converted⟩ := Option.bind_eq_some_iff.mp converted <;>
      cases converted <;>
      exact Scaled.places_dropZeros_dropNoise _

theorem places_of_ofFloat? {x : Float} {d : Decimal} (converted : ofFloat? x = some d) :
    d.scale = 0 ∨ d.mantissa < twoTo 52 ∧ d.mantissa % 10 ≠ 0 := by
  obtain ⟨parts, -, converted⟩ := Option.bind_eq_some_iff.mp converted
  exact places_of_ofBinary? converted

end Decimal

end RebateRelay.Number
