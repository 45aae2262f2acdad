import Mathlib.Data.List.Basic
import Mathlib.Data.List.TakeWhile
import Mathlib.Tactic.SplitIfs
import RebateRelay.Proofs.Text.Trimming
import RebateRelay.Text.Hex

/-!
# Digits in a text

A text of hexadecimal digits is a byte a character, has nothing to trim, and spells the same bytes
in either case. The digits that spell given bytes are those that become the lowercase ones when
their letters are lowered.
-/

namespace RebateRelay.Text

/-! ## Bytes of a text -/

theorem toList_loop (bytes : ByteArray) (i : Nat) (front : List UInt8) :
    ByteArray.toList.loop bytes i front = front.reverse ++ bytes.data.toList.drop i := by
  induction i, front using ByteArray.toList.loop.induct bytes with
  | case1 i front inside ih =>
      have inside' : i < bytes.data.toList.length := inside
      have next : bytes.get! i = bytes.data.toList[i] :=
        getElem!_pos bytes.data i inside
      rw [ByteArray.toList.loop, if_pos inside, ih, List.drop_eq_getElem_cons inside', next]
      simp
  | case2 i front outside =>
      have outside' : bytes.data.toList.length ≤ i := Nat.not_lt.mp outside
      rw [ByteArray.toList.loop, if_neg outside, List.drop_eq_nil_of_le outside', List.append_nil]

theorem toList_eq_toList_data (bytes : ByteArray) : bytes.toList = bytes.data.toList :=
  toList_loop bytes 0 []

theorem toList_toByteArray (bytes : List UInt8) : bytes.toByteArray.toList = bytes := by
  rw [toList_eq_toList_data, List.toList_data_toByteArray]

/-- The character is one of the first 128, which take a byte each. -/
def IsAscii (c : Char) : Prop := c.toNat < 128

/-- The byte of such a character. -/
def byte (c : Char) : UInt8 := UInt8.ofNat c.toNat

theorem utf8EncodeChar_of_isAscii {c : Char} (ascii : IsAscii c) :
    String.utf8EncodeChar c = [byte c] := by
  have short : c.val.toNat ≤ 0x7F := Nat.le_of_lt_succ ascii
  rw [String.utf8EncodeChar, if_pos short]
  rfl

theorem toUTF8_ofList {cs : List Char} (ascii : ∀ c ∈ cs, IsAscii c) :
    (String.ofList cs).toUTF8.toList = cs.map byte := by
  rw [String.toUTF8_eq_toByteArray, String.toByteArray_ofList, List.utf8Encode,
    toList_toByteArray, List.map_eq_flatMap]
  exact List.flatMap_congr fun c inside => utf8EncodeChar_of_isAscii (ascii c inside)

theorem ofNat_byte {c : Char} (ascii : IsAscii c) : Char.ofNat (byte c).toNat = c := by
  have small : c.toNat < 256 := Nat.lt_trans ascii (by decide)
  rw [byte, UInt8.toNat_ofNat_of_lt' small, Char.ofNat_toNat]

/-- A byte is the number of its character. -/
theorem toNat_ofNat_toNat (b : UInt8) : (Char.ofNat b.toNat).toNat = b.toNat := by
  have valid : b.toNat.isValidChar := Or.inl (Nat.lt_trans b.toNat_lt (by decide))
  rw [Char.ofNat, dif_pos valid]
  rfl

theorem byte_ofNat (b : UInt8) : byte (Char.ofNat b.toNat) = b := by
  rw [byte, toNat_ofNat_toNat, UInt8.ofNat_toNat]

theorem eq_of_toUTF8 {s t : String} (same : s.toUTF8.toList = t.toUTF8.toList) : s = t := by
  rw [toList_eq_toList_data, toList_eq_toList_data] at same
  exact String.toByteArray_inj.mp (ByteArray.ext (Array.toList_inj.mp same))

/-- A text whose bytes are all below 128 has a character for each of them. -/
theorem toList_of_toUTF8 {text : String} (small : ∀ b ∈ text.toUTF8.toList, b.toNat < 128) :
    text.toList = text.toUTF8.toList.map fun b => Char.ofNat b.toNat := by
  have ascii : ∀ c ∈ text.toUTF8.toList.map (fun b => Char.ofNat b.toNat), IsAscii c := by
    intro c inside
    obtain ⟨b, listed, rfl⟩ := List.mem_map.mp inside
    rw [IsAscii, toNat_ofNat_toNat]
    exact small b listed
  have same : (text.toUTF8.toList.map fun b => Char.ofNat b.toNat).map byte =
      text.toUTF8.toList := by
    rw [List.map_map]
    exact (List.map_congr_left fun b _ => byte_ofNat b).trans (List.map_id _)
  have read := eq_of_toUTF8 ((toUTF8_ofList ascii).trans same)
  exact (congrArg String.toList read).symm.trans String.toList_ofList

/-! ## Trimming -/

/-- Blanks around a text without any are what is trimmed. -/
theorem trim_append {front cs back : List Char} (before : ∀ c ∈ front, isBlank c = true)
    (after : ∀ c ∈ back, isBlank c = true) (dense : ∀ c ∈ cs, isBlank c = false) :
    trim (String.ofList (front ++ cs ++ back)) = String.ofList cs := by
  rw [trim, String.toList_ofList, trimChars_append before after,
    (isTrimmed_of_forall dense).trimChars_eq]

/-- A text without blanks has nothing to trim. -/
theorem trim_ofList {cs : List Char} (dense : ∀ c ∈ cs, isBlank c = false) :
    trim (String.ofList cs) = String.ofList cs := by
  rw [trim, String.toList_ofList, (isTrimmed_of_forall dense).trimChars_eq]

/-! ## Hexadecimal digits -/

namespace Hex

/-- A digit is a character of one byte and no blank. -/
theorem isAscii_of_value? {c : Char} (digit : (value? c).isSome = true) : IsAscii c := by
  unfold value? at digit
  unfold IsAscii
  simp only [Bool.and_eq_true, decide_eq_true_eq] at digit
  split_ifs at digit
  · omega
  · omega
  · omega
  · cases digit

theorem isBlank_of_value? {c : Char} (digit : (value? c).isSome = true) : isBlank c = false := by
  unfold value? at digit
  unfold isBlank
  simp only [Bool.and_eq_true, decide_eq_true_eq] at digit
  split_ifs at digit
  · simp; omega
  · simp; omega
  · simp; omega
  · cases digit

theorem toNat_toUpper (c : Char) :
    c.toUpper.toNat = if 97 ≤ c.toNat ∧ c.toNat ≤ 122 then c.toNat - 32 else c.toNat := by
  have letters : 'a'.val ≤ c.val ∧ c.val ≤ 'z'.val ↔ 97 ≤ c.toNat ∧ c.toNat ≤ 122 := Iff.rfl
  unfold Char.toUpper
  split_ifs with lower other other
  · have small : c.val.toNat ≤ 122 := (letters.mp lower).2
    have large : 97 ≤ c.val.toNat := (letters.mp lower).1
    show (c.val + ('A'.val - 'a'.val)).toNat = c.val.toNat - 32
    rw [UInt32.toNat_add]
    have shift : ('A'.val - 'a'.val).toNat = 2 ^ 32 - 32 := by decide
    omega
  · exact absurd (letters.mp lower) other
  · exact absurd (letters.mpr other) lower
  · rfl

theorem value?_toUpper (c : Char) : value? c.toUpper = value? c := by
  unfold value?
  simp only [toNat_toUpper, Bool.and_eq_true, decide_eq_true_eq]
  split_ifs <;> first | omega | (rw [Option.some.injEq]; omega) | rfl

theorem toNat_toLower (c : Char) :
    c.toLower.toNat = if 65 ≤ c.toNat ∧ c.toNat ≤ 90 then c.toNat + 32 else c.toNat := by
  have letters : c.val ≥ 'A'.val ∧ c.val ≤ 'Z'.val ↔ 65 ≤ c.toNat ∧ c.toNat ≤ 90 := Iff.rfl
  unfold Char.toLower
  split_ifs with upper other other
  · have small : c.val.toNat ≤ 90 := (letters.mp upper).2
    show (c.val + ('a'.val - 'A'.val)).toNat = c.val.toNat + 32
    rw [UInt32.toNat_add]
    have shift : ('a'.val - 'A'.val).toNat = 32 := by decide
    omega
  · exact absurd (letters.mp upper) other
  · exact absurd (letters.mpr other) upper
  · rfl

theorem value?_toLower (c : Char) : value? c.toLower = value? c := by
  unfold value?
  simp only [toNat_toLower, Bool.and_eq_true, decide_eq_true_eq]
  split_ifs <;> first | omega | (rw [Option.some.injEq]; omega) | rfl

theorem lt_of_value? {c : Char} {n : Nat} (value : value? c = some n) : n < 16 := by
  unfold value? at value
  simp only [Bool.and_eq_true, decide_eq_true_eq] at value
  split_ifs at value <;> (rw [Option.some.injEq] at value; omega)

/-- A digit with its letter lowered is the digit that is written. -/
theorem toLower_of_value? {c : Char} {n : Nat} (value : value? c = some n) :
    c.toLower = digit n := by
  have all : ∀ k < 128, (value? (Char.ofNat k)).map digit =
      (value? (Char.ofNat k)).map fun _ => (Char.ofNat k).toLower := by decide
  have small : c.toNat < 128 := isAscii_of_value? (Option.isSome_of_eq_some value)
  have lowered := all c.toNat small
  rw [Char.ofNat_toNat, value] at lowered
  exact (Option.some.inj lowered).symm

/-- The bytes that digits spell depend on their values only. -/
theorem decode?_congr {ds es : List Char} (same : ds.map value? = es.map value?) :
    decode? ds = decode? es := by
  induction ds using decode?.induct generalizing es with
  | case1 => rw [List.map_eq_nil_iff.mp same.symm]
  | case2 d =>
      have single : es.length = 1 := by simpa using congrArg List.length same.symm
      obtain ⟨e, rfl⟩ := List.length_eq_one_iff.mp single
      rfl
  | case3 high low ds ih =>
      obtain _ | ⟨high', _ | ⟨low', es⟩⟩ := es
      · exact absurd (congrArg List.length same) (by simp)
      · exact absurd (congrArg List.length same) (by simp)
      · simp only [List.map_cons, List.cons.injEq] at same
        obtain ⟨first, second, rest⟩ := same
        simp only [decode?, first, second, ih rest]

/-- Bytes are spelled by two digits each. -/
theorem spelling_of_decode? {ds : List Char} {bytes : List UInt8}
    (spelled : decode? ds = some bytes) :
    ds.length = 2 * bytes.length ∧ ∀ c ∈ ds, (value? c).isSome = true := by
  induction ds using decode?.induct generalizing bytes with
  | case1 =>
      cases spelled
      exact ⟨rfl, fun c inside => absurd inside List.not_mem_nil⟩
  | case2 => cases spelled
  | case3 high low ds ih =>
      simp only [decode?, Option.bind_eq_bind, Option.bind_eq_some_iff, Option.pure_def] at spelled
      obtain ⟨h, first, l, second, rest, spelled, shown⟩ := spelled
      cases shown
      obtain ⟨length, digits⟩ := ih spelled
      refine ⟨by simp only [List.length_cons]; omega, fun c inside => ?_⟩
      rcases List.mem_cons.mp inside with rfl | inside
      · exact Option.isSome_of_eq_some first
      · rcases List.mem_cons.mp inside with rfl | inside
        · exact Option.isSome_of_eq_some second
        · exact digits c inside

/-- What is written is digits of values below sixteen. -/
theorem exists_of_mem_encode {bytes : List UInt8} {c : Char} (inside : c ∈ encode bytes) :
    ∃ n < 16, c = digit n := by
  obtain ⟨b, _, listed⟩ := List.mem_flatMap.mp inside
  have small := b.toNat_lt
  rw [encodeByte, List.mem_cons, List.mem_singleton] at listed
  rcases listed with rfl | rfl
  · exact ⟨b.toNat / 16, by omega, rfl⟩
  · exact ⟨b.toNat % 16, by omega, rfl⟩

/-- No letter that is written is a capital. -/
theorem isUpper_of_mem_encode {bytes : List UInt8} {c : Char} (inside : c ∈ encode bytes) :
    c.isUpper = false := by
  obtain ⟨n, small, rfl⟩ := exists_of_mem_encode inside
  have all : ∀ n < 16, (digit n).isUpper = false := by decide
  exact all n small

/-- Every letter that is written becomes a capital when it is raised. -/
theorem isLower_toUpper_of_mem_encode {bytes : List UInt8} {c : Char} (inside : c ∈ encode bytes) :
    c.toUpper.isLower = false := by
  obtain ⟨n, small, rfl⟩ := exists_of_mem_encode inside
  have all : ∀ n < 16, (digit n).toUpper.isLower = false := by decide
  exact all n small

/-- What digits spell is what is written with their letters lowered. -/
theorem decode?_eq_some_iff {ds : List Char} {bytes : List UInt8} :
    decode? ds = some bytes ↔ ds.map Char.toLower = encode bytes := by
  constructor
  · intro spelled
    induction ds using decode?.induct generalizing bytes with
    | case1 =>
        cases spelled
        rfl
    | case2 => cases spelled
    | case3 high low ds ih =>
        simp only [decode?, Option.bind_eq_bind, Option.bind_eq_some_iff,
          Option.pure_def] at spelled
        obtain ⟨h, first, l, second, rest, spelled, shown⟩ := spelled
        cases shown
        have high_lt := lt_of_value? first
        have low_lt := lt_of_value? second
        have whole : (UInt8.ofNat (16 * h + l)).toNat = 16 * h + l :=
          UInt8.toNat_ofNat_of_lt' (by show 16 * h + l < 256; omega)
        have top : (16 * h + l) / 16 = h := by omega
        have bottom : (16 * h + l) % 16 = l := by omega
        rw [List.map_cons, List.map_cons, toLower_of_value? first, toLower_of_value? second,
          ih spelled, encode, encode, List.flatMap_cons, encodeByte, whole, top, bottom]
        rfl
  · intro written
    have same : ds.map value? = (encode bytes).map value? := by
      rw [← written, List.map_map]
      exact List.map_congr_left fun c _ => (value?_toLower c).symm
    rw [decode?_congr same, decode?_encode]

end Hex

end RebateRelay.Text
