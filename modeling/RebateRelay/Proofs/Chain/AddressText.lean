import RebateRelay.Chain.Erc20
import RebateRelay.Proofs.Text.Digits

/-!
# Addresses read back

An address is read from forty digits of either case, with a marker in front or without. Its
checksummed form has such digits, and it has the checksum that is demanded of letters of both
cases, so an address that is written out is read back as itself.
-/

namespace RebateRelay.Chain

open Text

namespace Keccak

theorem length_laneBytes (w : UInt64) : (laneBytes w).length = 8 := by
  simp [laneBytes]

/-- A hash has thirty-two bytes. -/
theorem length_hash256 (message : List UInt8) : (hash256 message).length = 32 := by
  have four (f : Nat → UInt64) : ((List.range 4).flatMap fun i => laneBytes (f i)).length = 32 := by
    simp [List.range_succ, length_laneBytes]
  exact four _

end Keccak

namespace Address

theorem length_digits (a : Address) : a.digits.length = 40 := by
  rw [digits, Hex.length_encode, a.length_bytes]

/-- The checksum has a word for each digit, and more. -/
theorem length_raised (lowercase : List Char) : (raised lowercase).length = 64 := by
  have pairs (bytes : List UInt8) :
      (bytes.flatMap fun b => [decide (128 ≤ b.toNat), decide (8 ≤ b.toNat % 16)]).length =
        2 * bytes.length := by
    induction bytes with
    | nil => rfl
    | cons b bytes ih =>
        rw [List.flatMap_cons, List.length_append, ih, List.length_cons]
        simp only [List.length_cons, List.length_nil]
        omega
  rw [raised, pairs, Keccak.length_hash256]

/-- Raising letters leaves the values of digits as they are. -/
theorem map_value?_raise {ds : List Char} {ups : List Bool} (enough : ds.length ≤ ups.length) :
    (List.zipWith (fun c up => if up then c.toUpper else c) ds ups).map Hex.value? =
      ds.map Hex.value? := by
  induction ds generalizing ups with
  | nil => rfl
  | cons c ds ih =>
      obtain _ | ⟨up, ups⟩ := ups
      · cases enough
      · rw [List.zipWith_cons_cons, List.map_cons, List.map_cons,
          ih (Nat.le_of_succ_le_succ enough)]
        cases up <;> simp [Hex.value?_toUpper]

theorem decode?_checksumDigits (a : Address) : Hex.decode? a.checksumDigits = some a.bytes := by
  have enough : a.digits.length ≤ (raised a.digits).length := by
    rw [length_digits, length_raised]
    decide
  rw [checksumDigits, Hex.decode?_congr (map_value?_raise enough), digits, Hex.decode?_encode]

/-- What may stand in front of the digits. -/
def markers : List (List Char) := [[], ['0', 'x'], ['0', 'X']]

/-- Without the letters of a marker nothing is taken for one. -/
theorem stripMarker_of_ne {α : Type} [BEq α] [LawfulBEq α] {zero lower upper : α} {xs : List α}
    (plain : ∀ x ∈ xs, x ≠ lower ∧ x ≠ upper) : stripMarker zero lower upper xs = xs := by
  rcases xs with _ | ⟨a, _ | ⟨b, xs⟩⟩
  · rfl
  · rfl
  · obtain ⟨not_lower, not_upper⟩ := plain b (List.mem_cons_of_mem _ List.mem_cons_self)
    simp [stripMarker, not_lower, not_upper]

/-- Digits are never taken for a marker. -/
theorem stripMarker_of_digits {ds : List Char} (digits : ∀ c ∈ ds, (Hex.value? c).isSome = true) :
    stripMarker 0x30 0x78 0x58 (ds.map byte) = ds.map byte := by
  refine stripMarker_of_ne fun b inside => ?_
  obtain ⟨c, listed, rfl⟩ := List.mem_map.mp inside
  have digit := digits c listed
  have read := ofNat_byte (Hex.isAscii_of_value? digit)
  constructor
  · intro same
    rw [← read, same] at digit
    cases digit
  · intro same
    rw [← read, same] at digit
    cases digit

theorem stripMarker_markers {marker ds : List Char} (marked : marker ∈ markers)
    (digits : ∀ c ∈ ds, (Hex.value? c).isSome = true) :
    stripMarker 0x30 0x78 0x58 ((marker ++ ds).map byte) = ds.map byte := by
  simp only [markers, List.mem_cons, List.not_mem_nil, or_false] at marked
  rcases marked with rfl | rfl | rfl
  · exact stripMarker_of_digits digits
  · rfl
  · rfl

theorem firstBadDigit_of_digits {ds : List Char}
    (digits : ∀ c ∈ ds, (Hex.value? c).isSome = true) : firstBadDigit (ds.map byte) = none := by
  rw [firstBadDigit, List.find?_eq_none]
  rintro ⟨b, place⟩ inside
  obtain ⟨c, listed, rfl⟩ := List.mem_map.mp (List.fst_mem_of_mem_zipIdx inside)
  have digit := digits c listed
  show ¬(Hex.value? (Char.ofNat (byte c).toNat)).isNone = true
  rw [ofNat_byte (Hex.isAscii_of_value? digit), Option.isNone_iff_eq_none]
  exact Option.isSome_iff_ne_none.mp digit

/-- An address is read from its digits in either case, behind any marker or none. -/
theorem decode_of_digits {a : Address} {marker ds : List Char} (marked : marker ∈ markers)
    (spelled : Hex.decode? ds = some a.bytes) :
    decode (String.ofList (marker ++ ds)) = .ok a := by
  obtain ⟨length, digits⟩ := Hex.spelling_of_decode? spelled
  rw [a.length_bytes] at length
  have ascii : ∀ c ∈ marker ++ ds, IsAscii c := by
    intro c inside
    rcases List.mem_append.mp inside with front | back
    · have all : ∀ marker ∈ markers, ∀ c ∈ marker, c.toNat < 128 := by simp [markers]
      exact all marker marked c front
    · exact Hex.isAscii_of_value? (digits c back)
  have even : (marker ++ ds).length % 2 ≠ 1 := by
    have all : ∀ marker ∈ markers, marker.length % 2 = 0 := by decide
    have front := all marker marked
    rw [List.length_append]
    omega
  have back : (ds.map byte).map (fun b => Char.ofNat b.toNat) = ds := by
    rw [List.map_map]
    exact (List.map_congr_left fun c inside =>
      ofNat_byte (Hex.isAscii_of_value? (digits c inside))).trans ds.map_id
  unfold decode
  simp only [toUTF8_ofList ascii, stripMarker_markers marked digits, List.length_map, even,
    if_false, length, firstBadDigit_of_digits digits, back, spelled, a.length_bytes]
  rfl

/-- The checksummed form of an address has nothing to trim. -/
theorem trim_checksummed (a : Address) : trim a.checksummed = a.checksummed := by
  obtain ⟨-, digits⟩ := Hex.spelling_of_decode? a.decode?_checksumDigits
  refine trim_ofList fun c inside => ?_
  rcases List.mem_cons.mp inside with rfl | inside
  · rfl
  · rcases List.mem_cons.mp inside with rfl | inside
    · rfl
    · exact Hex.isBlank_of_value? (digits c inside)

theorem decode_checksummed (a : Address) : decode a.checksummed = .ok a :=
  decode_of_digits (List.mem_cons_of_mem _ List.mem_cons_self) a.decode?_checksumDigits

/-- An address that is written out with its checksum is read back. -/
theorem parse_checksummed (a : Address) : parse a.checksummed = .ok a := by
  have marked : ['0', 'x'].isPrefixOf a.checksummed.toList = true := by
    rw [checksummed, String.toList_ofList]
    rfl
  unfold parse
  simp only [trim_checksummed, decodeChecksummed, marked, decode_checksummed, if_true, ite_self,
    bind, Except.bind]

end Address

end RebateRelay.Chain
