import Mathlib.Data.List.Basic
import Mathlib.Data.List.TakeWhile
import Mathlib.Data.Nat.Init
import Mathlib.Tactic.Ring
import RebateRelay.Json.Decode

/-!
# Whole numbers in digits

The decimal digits of a number are digits, have no zero in front unless they are the digits of zero,
and spell the number they come from. So a number that is written out is read back wherever it is in
range: as text, and as the spelling of a JSON number.
-/

namespace RebateRelay.Number

variable {n : ℕ} {c : Char} {cs : List Char}

theorem isDigit_eq (c : Char) : isDigit c = c.isDigit := by
  unfold isDigit digit?
  split
  case isTrue inside => exact inside.symm
  case isFalse outside => exact ((Bool.not_eq_true _).mp outside).symm

theorem digit?_of_isDigit (digit : isDigit c = true) : digit? c = some (c.toNat - '0'.toNat) := by
  unfold isDigit digit? at digit
  unfold digit?
  split at digit
  case isTrue inside => exact if_pos inside
  case isFalse => cases digit

theorem isDigit_of_mem_decimalDigits (inside : c ∈ decimalDigits n) : isDigit c = true := by
  rw [isDigit_eq]
  exact Nat.isDigit_of_mem_toDigits (by decide) (by decide) inside

theorem notMem_decimalDigits {mark : Char} (plain : isDigit mark = false) (n : ℕ) :
    mark ∉ decimalDigits n := by
  intro inside
  rw [isDigit_of_mem_decimalDigits inside] at plain
  cases plain

/-- Digits spell what they are said to. -/
theorem digitsValue_eq_ofDigitChars {start : ℕ} (digits : ∀ c ∈ cs, isDigit c = true) :
    digitsValue start cs = Nat.ofDigitChars 10 cs start := by
  induction cs generalizing start with
  | nil => rw [digitsValue_nil, Nat.ofDigitChars_nil]
  | cons c cs ih =>
      rw [digitsValue_cons, Nat.ofDigitChars_cons, digit?_of_isDigit (digits c List.mem_cons_self)]
      exact ih fun c inside => digits c (List.mem_cons_of_mem _ inside)

/-- The digits of a number spell it. -/
theorem digitsValue_decimalDigits (n : ℕ) : digitsValue 0 (decimalDigits n) = n := by
  rw [digitsValue_eq_ofDigitChars fun c => isDigit_of_mem_decimalDigits]
  exact Nat.ofDigitChars_ten_toDigits

theorem le_digitsValue (start : ℕ) (cs : List Char) : start ≤ digitsValue start cs := by
  induction cs generalizing start with
  | nil => exact Nat.le_refl _
  | cons c cs ih =>
      rw [digitsValue_cons]
      exact Nat.le_trans (by omega) (ih _)

/-- What was read before counts as many times more as the digits have places. -/
theorem digitsValue_eq_add (start : ℕ) (cs : List Char) :
    digitsValue start cs = start * tenTo cs.length + digitsValue 0 cs := by
  induction cs generalizing start with
  | nil => simp
  | cons c cs ih =>
      rw [digitsValue_cons, digitsValue_cons, ih, ih (10 * 0 + _), List.length_cons, tenTo_succ]
      ring

theorem getD_digit?_le (c : Char) : (digit? c).getD 0 ≤ 9 := by
  unfold digit?
  split
  case isTrue inside =>
    simp only [Bool.and_eq_true, decide_eq_true_eq] at inside
    rw [Option.getD_some]
    omega
  case isFalse => exact Nat.zero_le 9

theorem digitsValue_lt (cs : List Char) : digitsValue 0 cs < tenTo cs.length := by
  induction cs with
  | nil => exact Nat.one_pos
  | cons c cs ih =>
      have first := Nat.mul_le_mul_right (tenTo cs.length) (getD_digit?_le c)
      rw [digitsValue_cons, digitsValue_eq_add, List.length_cons, tenTo_succ, Nat.mul_zero,
        Nat.zero_add]
      omega

/-- Digits are read as what they spell, if that is in range. -/
theorem readDigits_of_lt {bound start : ℕ} (digits : ∀ c ∈ cs, isDigit c = true)
    (inside : digitsValue start cs < bound) :
    readDigits bound start cs = .ok (digitsValue start cs) := by
  induction cs generalizing start with
  | nil => rfl
  | cons c cs ih =>
      have digit := digit?_of_isDigit (digits c List.mem_cons_self)
      have rest := digitsValue_cons start c cs
      rw [digit, Option.getD_some] at rest
      rw [rest] at inside ⊢
      have first := Nat.lt_of_le_of_lt (le_digitsValue _ cs) inside
      simp only [readDigits, digit, first, if_true]
      exact ih (fun c inside => digits c (List.mem_cons_of_mem _ inside)) inside

/-- What is read is digits that spell the number, in range as soon as there are any. -/
theorem readDigits_eq_ok {bound start : ℕ} :
    readDigits bound start cs = .ok n ↔
      (∀ c ∈ cs, isDigit c = true) ∧ digitsValue start cs = n ∧ (cs = [] ∨ n < bound) := by
  constructor
  · intro read
    induction cs generalizing start with
    | nil =>
        cases read
        exact ⟨List.forall_mem_nil _, rfl, Or.inl rfl⟩
    | cons c cs ih =>
        unfold readDigits at read
        split at read
        case h_1 => cases read
        case h_2 d value =>
          split at read
          case isTrue first =>
            obtain ⟨digits, spelled, inside⟩ := ih read
            have digit : isDigit c = true := by rw [isDigit, value, Option.isSome_some]
            refine ⟨List.forall_mem_cons.mpr ⟨digit, digits⟩, ?_, Or.inr ?_⟩
            · rw [digitsValue_cons, value]
              exact spelled
            · obtain rfl | inside := inside
              · rwa [← spelled]
              · exact inside
          case isFalse => cases read
  · rintro ⟨digits, rfl, rfl | inside⟩
    · rfl
    · exact readDigits_of_lt digits inside

/-- The text is a number in digits, with a plus sign in front or without. -/
def Spells (cs : List Char) (n : ℕ) : Prop :=
  ∃ sign digits, cs = sign ++ digits ∧ (sign = [] ∨ sign = ['+']) ∧ digits ≠ [] ∧
    (∀ c ∈ digits, isDigit c = true) ∧ digitsValue 0 digits = n

/-- Without a sign the digits are read as they stand. -/
theorem readUnsigned_of_isDigit {bound : ℕ} (some : cs ≠ []) (digits : ∀ c ∈ cs, isDigit c = true) :
    readUnsigned bound cs = readDigits bound 0 cs := by
  have plus : '+' ∉ cs := fun listed => by cases digits '+' listed
  unfold readUnsigned
  split
  case h_1 => exact absurd rfl some
  case h_2 => exact absurd List.mem_cons_self plus
  case h_3 => exact absurd List.mem_cons_self plus
  case h_4 => rfl

/-- What is read as an unsigned integer is what spells one in range. -/
theorem readUnsigned_eq_ok {bound : ℕ} :
    readUnsigned bound cs = .ok n ↔ Spells cs n ∧ n < bound := by
  constructor
  · intro read
    unfold readUnsigned at read
    split at read
    case h_1 => cases read
    case h_2 => cases read
    case h_3 cs more =>
      obtain ⟨digits, spelled, inside⟩ := readDigits_eq_ok.mp read
      exact ⟨⟨['+'], cs, rfl, Or.inr rfl, more, digits, spelled⟩, inside.resolve_left more⟩
    case h_4 some plus more =>
      obtain ⟨digits, spelled, inside⟩ := readDigits_eq_ok.mp read
      exact ⟨⟨[], cs, rfl, Or.inl rfl, some, digits, spelled⟩, inside.resolve_left some⟩
  · rintro ⟨⟨sign, digits, rfl, plus, some, only, spelled⟩, inside⟩
    have read : readDigits bound 0 digits = .ok n :=
      readDigits_eq_ok.mpr ⟨only, spelled, Or.inr inside⟩
    obtain rfl | rfl := plus
    · rw [List.nil_append, readUnsigned_of_isDigit some only, read]
    · cases digits with
      | nil => exact absurd rfl some
      | cons c cs => exact read

theorem decimalDigits_ne_nil (n : ℕ) : decimalDigits n ≠ [] := Nat.toDigits_ne_nil

theorem spells_decimalDigits (n : ℕ) : Spells (decimalDigits n) n :=
  ⟨[], decimalDigits n, rfl, Or.inl rfl, decimalDigits_ne_nil n,
    fun _ => isDigit_of_mem_decimalDigits, digitsValue_decimalDigits n⟩

/-- A number in range is read back from its digits. -/
theorem readUnsigned_decimalDigits {bound : ℕ} (inside : n < bound) :
    readUnsigned bound (decimalDigits n) = .ok n :=
  readUnsigned_eq_ok.mpr ⟨spells_decimalDigits n, inside⟩

/-- Only zero is written with a zero in front. -/
theorem head?_decimalDigits (positive : 0 < n) : (decimalDigits n).head? ≠ some '0' := by
  induction n using Nat.strongRecOn with
  | _ n ih =>
      unfold decimalDigits at ih ⊢
      by_cases short : n < 10
      · rw [Nat.toDigits_of_lt_base short, List.head?_cons, ne_eq, Option.some.injEq,
          Nat.digitChar_eq_zero]
        exact Nat.ne_of_gt positive
      · have tens : 0 < n / 10 := Nat.div_pos (Nat.not_lt.mp short) (by decide)
        rw [Nat.toDigits_of_base_le (by decide) (Nat.not_lt.mp short),
          List.head?_append_of_ne_nil _ Nat.toDigits_ne_nil]
        exact ih (n / 10) (Nat.div_lt_self positive (by decide)) tens

end RebateRelay.Number

namespace RebateRelay.Json

open Number

/-- The digits of a number are the spelling of one. -/
theorem isNumber_decimalDigits (n : ℕ) : isNumber (decimalDigits n) = true := by
  rcases Nat.eq_zero_or_pos n with rfl | positive
  · rfl
  · have front := head?_decimalDigits positive
    have digits : ∀ c ∈ decimalDigits n, isDigit c = true := fun c => isDigit_of_mem_decimalDigits
    have some := decimalDigits_ne_nil n
    generalize decimalDigits n = cs at front digits some
    obtain _ | ⟨c, cs⟩ := cs
    · exact absurd rfl some
    · have digit := digits c List.mem_cons_self
      have rest : cs.dropWhile isDigit = [] :=
        List.dropWhile_eq_nil_iff.mpr fun c inside => digits c (List.mem_cons_of_mem _ inside)
      have sign : c ≠ '-' := by
        rintro rfl
        cases digit
      have zero : c ≠ '0' := fun same => front (congrArg _ same)
      have whole : dropWhole? (c :: cs) = Option.some [] := by
        unfold dropWhole?
        split
        case h_1 same => exact absurd (List.cons.inj same).1 zero
        case h_2 => rw [dropDigits?, if_pos digit, rest]
      unfold isNumber
      split
      case h_1 same => exact absurd (List.cons.inj same).1 sign
      case h_2 =>
        simp only [whole]
        rfl

/-- A number in range is read back from its JSON value. -/
theorem natOfSpelling?_decimalDigits {bound n : ℕ} (inside : n < bound) :
    natOfSpelling? bound (decimalDigits n) = some n := by
  have digits : (decimalDigits n).all isDigit = true :=
    List.all_eq_true.mpr fun c => isDigit_of_mem_decimalDigits
  simp only [natOfSpelling?, isNumber_decimalDigits, digits, Bool.and_self, if_true,
    digitsValue_decimalDigits, inside]

theorem uint64?_ofNat (n : UInt64) : uint64? (ofNat n.toNat) = some n := by
  rw [ofNat, uint64?, natOfSpelling?_decimalDigits n.toNat_lt_size, Option.map_some,
    UInt64.ofNat_toNat]

end RebateRelay.Json
