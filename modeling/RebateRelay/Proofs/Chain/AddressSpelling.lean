import RebateRelay.Proofs.Chain.Wire

/-!
# Spellings of an address

A text is read as an address exactly when, without the blanks around it, it spells that address:
forty digits in either case behind a marker or none, where letters of both cases have to be those of
the checksummed form. Two readers take part. One looks at the characters and decides whether the
case is to carry the checksum, the other takes the bytes for digits; they agree because a text that
the second one accepts has a byte for each character.
-/

namespace RebateRelay.Chain

open Text

namespace Address

/-- The text spells the address. -/
def Spells (text : String) (a : Address) : Prop :=
  ∃ marker ∈ markers, ∃ ds : List Char, text = String.ofList (marker ++ ds) ∧
    ds.map Char.toLower = a.digits ∧
    (ds.any Char.isLower = true → ds.any Char.isUpper = true → text = a.checksummed)

/-- What is stripped in front is a marker or nothing. -/
theorem stripMarker_spec {α : Type} [BEq α] [LawfulBEq α] (zero lower upper : α) (xs : List α) :
    ∃ marker ∈ [[], [zero, lower], [zero, upper]],
      xs = marker ++ stripMarker zero lower upper xs := by
  unfold stripMarker
  split
  · rename_i a b rest
    split
    · rename_i marked
      simp only [Bool.and_eq_true, Bool.or_eq_true, beq_iff_eq] at marked
      obtain ⟨rfl, rfl | rfl⟩ := marked
      · exact ⟨[a, b], by simp, rfl⟩
      · exact ⟨[a, b], by simp, rfl⟩
    · exact ⟨[], by simp, rfl⟩
  · exact ⟨[], by simp, rfl⟩

theorem isSome_of_firstBadDigit {bytes : List UInt8} (none : firstBadDigit bytes = none)
    {b : UInt8} (listed : b ∈ bytes) : (Hex.value? (Char.ofNat b.toNat)).isSome = true := by
  rw [firstBadDigit, List.find?_eq_none] at none
  obtain ⟨place, inside, rfl⟩ := List.getElem_of_mem listed
  have digit := none (bytes[place], place) (List.mem_zipIdx_iff_getElem?.mpr (by simp [inside]))
  exact Option.isSome_iff_ne_none.mpr fun absent => digit (Option.isNone_iff_eq_none.mpr absent)

/-- A text whose bytes are digits behind a marker or none consists of those digits behind that
marker. -/
theorem eq_ofList_of_digits {text : String} {marker body : List UInt8}
    (marked : marker ∈ [[], [0x30, 0x78], [0x30, 0x58]])
    (digits : ∀ b ∈ body, (Hex.value? (Char.ofNat b.toNat)).isSome = true)
    (whole : text.toUTF8.toList = marker ++ body) :
    text = String.ofList ((marker.map fun b => Char.ofNat b.toNat) ++
      body.map fun b => Char.ofNat b.toNat) := by
  have small : ∀ b ∈ text.toUTF8.toList, b.toNat < 128 := by
    intro b listed
    rw [whole, List.mem_append] at listed
    rcases listed with front | back
    · have all : ∀ marker ∈ ([[], [0x30, 0x78], [0x30, 0x58]] : List (List UInt8)),
          ∀ b ∈ marker, b.toNat < 128 := by simp
      exact all marker marked b front
    · have ascii := Hex.isAscii_of_value? (digits b back)
      rwa [IsAscii, toNat_ofNat_toNat] at ascii
  rw [← List.map_append, ← whole, ← toList_of_toUTF8 small, String.ofList_toList]

/-- What is decoded has digits behind a marker or none, and they spell the bytes. -/
theorem exists_of_decode {text : String} {a : Address} (read : decode text = .ok a) :
    ∃ marker ∈ markers, ∃ ds, text = String.ofList (marker ++ ds) ∧
      Hex.decode? ds = some a.bytes := by
  unfold decode at read
  dsimp only at read
  split_ifs at read
  obtain ⟨marker, marked, whole⟩ := stripMarker_spec 0x30 0x78 0x58 text.toUTF8.toList
  generalize stripMarker 0x30 0x78 0x58 text.toUTF8.toList = body at read whole
  cases bad : firstBadDigit body with
  | some fault => simp only [bad, reduceCtorEq] at read
  | none =>
      simp only [bad] at read
      cases spelled : Hex.decode? (body.map fun b => Char.ofNat b.toNat) with
      | none => simp only [spelled, reduceCtorEq] at read
      | some raw =>
          simp only [spelled] at read
          split_ifs at read with twenty
          cases read
          have all : ∀ marker ∈ [[], [0x30, 0x78], [0x30, 0x58]],
              marker.map (fun b : UInt8 => Char.ofNat b.toNat) ∈ markers := by decide
          have digits (b : UInt8) (listed : b ∈ body) := isSome_of_firstBadDigit bad listed
          exact ⟨_, all marker marked, _, eq_ofList_of_digits marked digits whole, spelled⟩

theorem decode_eq_ok_iff {text : String} {a : Address} :
    decode text = .ok a ↔ ∃ marker ∈ markers, ∃ ds, text = String.ofList (marker ++ ds) ∧
      ds.map Char.toLower = a.digits := by
  simp only [digits, ← Hex.decode?_eq_some_iff]
  constructor
  · exact exists_of_decode
  · rintro ⟨marker, marked, ds, rfl, spelled⟩
    exact decode_of_digits marked spelled

/-- The characters that are looked at for their case are the digits. -/
theorem hasMixedCase_of_digits {marker ds : List Char} (marked : marker ∈ markers)
    (digits : ∀ c ∈ ds, (Hex.value? c).isSome = true) :
    hasMixedCase (String.ofList (marker ++ ds)) =
      (ds.any Char.isLower && ds.any Char.isUpper) := by
  have stripped : stripMarker '0' 'x' 'X' (marker ++ ds) = ds := by
    simp only [markers, List.mem_cons, List.not_mem_nil, or_false] at marked
    rcases marked with rfl | rfl | rfl
    · refine stripMarker_of_ne fun c inside => ?_
      have digit := digits c inside
      constructor
      · rintro rfl
        cases digit
      · rintro rfl
        cases digit
    · rfl
    · rfl
  rw [hasMixedCase, String.toList_ofList, stripped]

theorem decodeChecksummed_eq_ok_iff {text : String} {a : Address} :
    decodeChecksummed text = .ok a ↔ text = a.checksummed := by
  constructor
  · intro read
    unfold decodeChecksummed at read
    split_ifs at read
    cases decoded : decode text with
    | error fault => simp [decoded, bind, Except.bind] at read
    | ok b =>
        simp only [decoded, bind, Except.bind] at read
        split_ifs at read with same
        cases read
        exact same.symm
  · rintro rfl
    have marked : ['0', 'x'].isPrefixOf a.checksummed.toList = true := by
      rw [checksummed, String.toList_ofList]
      rfl
    simp only [decodeChecksummed, marked, decode_checksummed, if_true, bind, Except.bind]

/-- A text is read as an address when it spells the address between its blanks, and only then. -/
theorem parse_eq_ok_iff {raw : String} {a : Address} :
    parse raw = .ok a ↔ Spells (trim raw) a := by
  unfold parse Spells
  generalize trim raw = text
  dsimp only
  have isDigit {ds : List Char} (written : ds.map Char.toLower = a.digits) :
      ∀ c ∈ ds, (Hex.value? c).isSome = true :=
    (Hex.spelling_of_decode? (Hex.decode?_eq_some_iff.mpr written)).2
  constructor
  · intro read
    have decoded : decode text = .ok a := by
      split_ifs at read
      · exact decodeChecksummed_eq_ok_iff.mp read ▸ decode_checksummed a
      · exact read
    obtain ⟨marker, marked, ds, rfl, written⟩ := decode_eq_ok_iff.mp decoded
    refine ⟨marker, marked, ds, rfl, written, fun lower upper => ?_⟩
    have mixed : hasMixedCase (String.ofList (marker ++ ds)) = true := by
      rw [hasMixedCase_of_digits marked (isDigit written), lower, upper]
      rfl
    rw [if_pos mixed] at read
    exact decodeChecksummed_eq_ok_iff.mp read
  · rintro ⟨marker, marked, ds, rfl, written, checked⟩
    split_ifs with mixed
    · rw [hasMixedCase_of_digits marked (isDigit written), Bool.and_eq_true] at mixed
      exact decodeChecksummed_eq_ok_iff.mpr (checked mixed.1 mixed.2)
    · exact decode_eq_ok_iff.mpr ⟨marker, marked, ds, rfl, written⟩

/-- The checksummed form spells its address. -/
theorem spells_checksummed (a : Address) : Spells a.checksummed a :=
  ⟨['0', 'x'], List.mem_cons_of_mem _ List.mem_cons_self, a.checksumDigits, rfl,
    Hex.decode?_eq_some_iff.mp a.decode?_checksumDigits, fun _ _ => rfl⟩

/-- The lowercase digits spell the address behind any marker or none. -/
theorem spells_digits (a : Address) {marker : List Char} (marked : marker ∈ markers) :
    Spells (String.ofList (marker ++ a.digits)) a := by
  refine ⟨marker, marked, a.digits, rfl,
    Hex.decode?_eq_some_iff.mp (Hex.decode?_encode a.bytes), fun _ upper => ?_⟩
  obtain ⟨c, inside, capital⟩ := List.any_eq_true.mp upper
  rw [Hex.isUpper_of_mem_encode inside] at capital
  cases capital

/-- The uppercase digits spell the address behind any marker or none. -/
theorem spells_capitals (a : Address) {marker : List Char} (marked : marker ∈ markers) :
    Spells (String.ofList (marker ++ a.digits.map Char.toUpper)) a := by
  have same : (a.digits.map Char.toUpper).map Hex.value? = a.digits.map Hex.value? := by
    rw [List.map_map]
    exact List.map_congr_left fun c _ => Hex.value?_toUpper c
  have spelled : Hex.decode? (a.digits.map Char.toUpper) = some a.bytes :=
    (Hex.decode?_congr same).trans (Hex.decode?_encode a.bytes)
  refine ⟨marker, marked, _, rfl, Hex.decode?_eq_some_iff.mp spelled, fun lower _ => ?_⟩
  obtain ⟨_, raised, small⟩ := List.any_eq_true.mp lower
  obtain ⟨c, inside, rfl⟩ := List.mem_map.mp raised
  rw [Hex.isLower_toUpper_of_mem_encode inside] at small
  cases small

/-- A text that spells an address has no blanks. -/
theorem Spells.isBlank_eq_false {text : String} {a : Address} (h : Spells text a) :
    ∀ c ∈ text.toList, isBlank c = false := by
  obtain ⟨marker, marked, ds, rfl, written, _⟩ := h
  obtain ⟨_, digits⟩ := Hex.spelling_of_decode? (Hex.decode?_eq_some_iff.mpr written)
  intro c inside
  rw [String.toList_ofList, List.mem_append] at inside
  rcases inside with front | back
  · have all : ∀ marker ∈ markers, ∀ c ∈ marker, isBlank c = false := by
      simp [markers, isBlank]
    exact all marker marked c front
  · exact Hex.isBlank_of_value? (digits c back)

/-- A spelling of an address is read with any blanks around it. -/
theorem Spells.parse_eq {text : String} {a : Address} (h : Spells text a) {front back : List Char}
    (before : ∀ c ∈ front, isBlank c = true) (after : ∀ c ∈ back, isBlank c = true) :
    parse (String.ofList (front ++ text.toList ++ back)) = .ok a := by
  rw [parse_eq_ok_iff, trim_append before after h.isBlank_eq_false, String.ofList_toList]
  exact h

end Address

theorem parseAddress_eq_ok_iff {raw : String} {a : Address} :
    parseAddress raw = .ok a ↔ Address.parse raw = .ok a := by
  unfold parseAddress
  cases Address.parse raw <;> simp

/-- Which texts are read as an address. Whatever is read consists, between its blanks, of forty
digits behind a marker or none, and the digits are those of the address, in either case; if there
are letters of both cases, it is the checksummed form of the address. And an address is read from
its checksummed form, and from its digits in one case behind a marker or none, with any blanks
around. So the text by which a call that is handed over names its contract is read as that
contract. -/
theorem reads_what_spells :
    (∀ raw a, parseAddress raw = .ok a →
      ∃ marker ∈ Address.markers, ∃ ds : List Char, (trim raw).toList = marker ++ ds ∧
        ds.length = 40 ∧ ds.map Char.toLower = a.digits ∧
        (ds.any Char.isLower = true → ds.any Char.isUpper = true → trim raw = a.checksummed)) ∧
    (∀ (a : Address) (front back : List Char), (∀ c ∈ front, isBlank c = true) →
      (∀ c ∈ back, isBlank c = true) →
        parseAddress (String.ofList (front ++ a.checksummed.toList ++ back)) = .ok a ∧
        ∀ marker ∈ Address.markers, ∀ ds ∈ [a.digits, a.digits.map Char.toUpper],
          parseAddress (String.ofList (front ++ (marker ++ ds) ++ back)) = .ok a) ∧
    ∀ (s : Submitter) (tx : Transaction) (request : Http.Request),
      s.submitRequest tx = .ok request →
        ∃ body members text, request.body = some body ∧
          Json.Members.ofJson? ["chain_id", "to", "value", "data"] body = some members ∧
          members.required "to" Json.string? = some text ∧
          parseAddress text = .ok tx.contract := by
  refine ⟨?faithful, ?complete, ?handed⟩
  case faithful =>
    intro raw a read
    obtain ⟨marker, marked, ds, text, written, checked⟩ :=
      Address.parse_eq_ok_iff.mp (parseAddress_eq_ok_iff.mp read)
    have forty : ds.length = 40 := by rw [← a.length_digits, ← written, List.length_map]
    exact ⟨marker, marked, ds, by rw [text, String.toList_ofList], forty, written, checked⟩
  case complete =>
    intro a front back before after
    simp only [parseAddress_eq_ok_iff]
    refine ⟨a.spells_checksummed.parse_eq before after, fun marker marked ds listed => ?_⟩
    have spells : Address.Spells (String.ofList (marker ++ ds)) a := by
      simp only [List.mem_cons, List.not_mem_nil, or_false] at listed
      rcases listed with rfl | rfl
      · exact a.spells_digits marked
      · exact a.spells_capitals marked
    have read := spells.parse_eq before after
    rwa [String.toList_ofList] at read
  case handed =>
    intro s tx request made
    refine ⟨tx.toJson, _, tx.contract.checksummed, Submitter.body_of_submitRequest made,
      tx.membersOfJson?_toJson, ?_, parseAddress_eq_ok_iff.mpr tx.contract.parse_checksummed⟩
    simp [Json.Members.required, List.lookup_cons, Json.string?_ofString]

/-- An address with letters of both cases in its checksummed form, between blanks. -/
theorem reads_what_spells_of_mixed_case :
    let a : Address := ⟨[0x91, 0x2C, 0xE5, 0x91, 0x44, 0x19, 0x1C, 0x12, 0x04, 0xE6,
      0x45, 0x59, 0xFE, 0x82, 0x53, 0xA0, 0xE4, 0x9E, 0x65, 0x48], by decide⟩
    (∀ c ∈ ['\t', '\n'], isBlank c = true) ∧
      parseAddress "\t\n0x912CE59144191C1204E64559FE8253a0e49E6548\n" = .ok a ∧
      parseAddress "\t\n912CE59144191C1204E64559FE8253A0E49E6548\n" = .ok a := by
  intro a
  have blank : ∀ c ∈ ['\t', '\n'], isBlank c = true := by simp [isBlank]
  have blank' : ∀ c ∈ ['\n'], isBlank c = true := by simp [isBlank]
  obtain ⟨_, complete, _⟩ := reads_what_spells
  obtain ⟨read, plain⟩ := complete a ['\t', '\n'] ['\n'] blank blank'
  have written : String.ofList (['\t', '\n'] ++ a.checksummed.toList ++ ['\n']) =
      "\t\n0x912CE59144191C1204E64559FE8253a0e49E6548\n" := by decide +kernel
  have capitals : String.ofList (['\t', '\n'] ++ ([] ++ a.digits.map Char.toUpper) ++ ['\n']) =
      "\t\n912CE59144191C1204E64559FE8253A0E49E6548\n" := by decide +kernel
  refine ⟨blank, written ▸ read, capitals ▸ plain [] (by decide) _ ?_⟩
  exact List.mem_cons_of_mem _ List.mem_cons_self

end RebateRelay.Chain
