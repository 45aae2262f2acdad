import RebateRelay.Proofs.Time.Reading
import RebateRelay.Time.Rfc3339

/-!
# Instants with an offset read back

The strict reader has a law for each of its pieces, as the readers of the other layouts have. What is
read in the end is the instant of the stamp on a clock of the zone that is written behind it.
-/

namespace RebateRelay

open Number Text Timestamp Layout

/-- A zone of which clocks are ahead of universal time, or behind it, by hours and minutes. -/
inductive Zone where
  | universal
  | offset (behind : Bool) (hours minutes : ℕ) (hours_lt : hours < 24) (minutes_lt : minutes < 60)

namespace Zone

/-- The minutes by which clocks of the zone are ahead. -/
def ahead : Zone → ℤ
  | universal => 0
  | offset true hours minutes _ _ => -(hours * 60 + minutes)
  | offset false hours minutes _ _ => hours * 60 + minutes

/-- The signs of an offset. Behind universal time the minus sign proper is as good as the dash. -/
def signs : Bool → List Char
  | true => ['-', '\u2212']
  | false => ['+']

/-- The ways to write a zone. -/
def texts : Zone → List (List Char)
  | universal => [['Z'], ['z']]
  | offset behind hours minutes _ _ =>
      (signs behind).map fun sign => sign :: (padded 2 hours ++ ':' :: padded 2 minutes)

theorem ne_of_mem_signs {behind : Bool} {sign : Char} (known : sign ∈ signs behind) :
    sign ≠ 'Z' ∧ sign ≠ 'z' := by
  revert sign
  cases behind <;> simp [signs]

/-- An offset in seconds, as it is worked out from its fields. -/
theorem seconds_offset {behind : Bool} {hours minutes : ℕ} (hours_lt : hours < 24)
    (minutes_lt : minutes < 60) :
    (if behind then -(hours * 3600 + minutes * 60 : ℤ) else hours * 3600 + minutes * 60) =
      (offset behind hours minutes hours_lt minutes_lt).ahead * 60 := by
  cases behind with
  | false =>
      change (hours * 3600 + minutes * 60 : ℤ) = (hours * 60 + minutes) * 60
      omega
  | true =>
      change -(hours * 3600 + minutes * 60 : ℤ) = -(hours * 60 + minutes) * 60
      omega

theorem ahead_bounds (z : Zone) : -1440 < z.ahead ∧ z.ahead < 1440 := by
  cases z with
  | universal => decide
  | offset behind hours minutes =>
      cases behind <;> dsimp only [ahead] <;> omega

end Zone

/-- The ways to write a stamp with the zone of its clock. -/
def Stamp.zonedTexts (s : Stamp) (z : Zone) : List (List Char) :=
  ['T', 't', ' '].flatMap fun mark => z.texts.map fun zone =>
    s.dateText ++ mark :: (s.clockText ++ zone)

namespace Rfc3339

variable {width n low high : ℕ} {rest cs : List Char} {mark : Char} {s : Stamp}

theorem takes_exactly (positive : 0 < width) (fits : n < tenTo width) (rest : List Char) :
    Takes (exactly width) (padded width n) n rest := by
  unfold exactly
  refine (takes_padded positive fits _).bind_to_nil ?_
  rw [if_pos (length_padded positive fits), digitsValue_padded]
  exact takes_pure _ _

theorem takes_pair (fits : n < 100) (inside : low ≤ n ∧ n ≤ high) (rest : List Char) :
    Takes (pair low high) (padded 2 n) n rest := by
  unfold pair
  refine (takes_exactly (by decide) fits _).bind_to_nil ?_
  rw [if_pos inside]
  exact takes_pure _ _

theorem takes_dateMark (known : mark ∈ ['T', 't', ' ']) (rest : List Char) :
    Takes dateMark [mark] () rest := by
  have letter : mark = 'T' ∨ mark = 't' ∨ mark = ' ' := by simpa using known
  change (if mark = 'T' ∨ mark = 't' ∨ mark = ' ' then set rest else throw .invalid : Reader Unit)
    (mark :: rest) = _
  rw [if_pos letter]
  rfl

theorem takes_sign {behind : Bool} {sign : Char} (known : sign ∈ Zone.signs behind)
    (rest : List Char) : Takes Rfc3339.sign [sign] behind rest := by
  cases behind with
  | false =>
      obtain rfl : sign = '+' := by simpa [Zone.signs] using known
      rfl
  | true =>
      obtain rfl | rfl : sign = '-' ∨ sign = '\u2212' := by simpa [Zone.signs] using known
      · rfl
      · rfl

theorem takes_offset (z : Zone) {text : List Char} (written : text ∈ z.texts) (rest : List Char) :
    Takes (offset (literal ':')) text (z.ahead * 60) rest := by
  cases z with
  | universal =>
      obtain rfl | rfl : text = ['Z'] ∨ text = ['z'] := by simpa [Zone.texts] using written
      · rfl
      · rfl
  | offset behind hours minutes hours_lt minutes_lt =>
      obtain ⟨sign, known, rfl⟩ := List.mem_map.mp written
      have other : sign ≠ 'Z' ∧ sign ≠ 'z' := Zone.ne_of_mem_signs known
      have fits : hours < tenTo 2 := Nat.lt_trans hours_lt (by decide)
      unfold offset
      refine (takes_get _).bind_of_nil ?_
      split
      case h_1 letter => exact absurd (List.cons.inj letter).1 other.1
      case h_2 letter => exact absurd (List.cons.inj letter).1 other.2
      case h_3 =>
        have signed : Takes Rfc3339.sign [sign] behind _ :=
          takes_sign known (padded 2 hours ++ ':' :: padded 2 minutes ++ rest)
        refine signed.bind ?_
        refine (takes_exactly (by decide) fits _).bind ?_
        refine (takes_literal ':' _).bind ?_
        refine (takes_pair (by omega) ⟨Nat.zero_le _, by omega⟩ _).bind_to_nil ?_
        rw [if_neg (Nat.not_le.mpr hours_lt)]
        rw [← Zone.seconds_offset]
        exact takes_pure _ _

/-- Behind a fraction a zone can stand. -/
theorem endsFraction_of_mem_texts {z : Zone} {text : List Char} (written : text ∈ z.texts)
    (rest : List Char) : EndsFraction (text ++ rest) := by
  cases z with
  | universal =>
      obtain rfl | rfl : text = ['Z'] ∨ text = ['z'] := by simpa [Zone.texts] using written
      · exact apart_cons.mpr (by decide)
      · exact apart_cons.mpr (by decide)
  | offset behind hours minutes =>
      obtain ⟨sign, known, rfl⟩ := List.mem_map.mp written
      apply apart_cons.mpr
      revert sign
      cases behind <;> simp [Zone.signs, isDigit, digit?]

/-- The strict reader takes a stamp with its zone to the instant. -/
theorem takes_strictReader (exist : s.date.Exists) (z : Zone) (known : mark ∈ ['T', 't', ' '])
    {zone : List Char} (written : zone ∈ z.texts) :
    Takes strictReader (s.dateText ++ mark :: (s.clockText ++ zone)) (s.instant z.ahead) [] := by
  obtain ⟨month, day⟩ := Stamp.inRange_of_exists exist
  obtain ⟨least, most⟩ := z.ahead_bounds
  have hour : s.hour ≤ 23 := Nat.le_of_lt_succ s.hour_lt
  have minute : s.minute ≤ 59 := Nat.le_of_lt_succ s.minute_lt
  have second : s.second ≤ 60 := s.second_le
  have instant_eq : instant s.read (z.ahead * 60) = pure (s.instant z.ahead) := by
    unfold instant
    rw [Stamp.timestamp?_read exist least most]
  have year : s.year < tenTo 4 := s.year_lt
  unfold strictReader Stamp.dateText Stamp.clockText
  simp only [List.append_assoc, List.cons_append]
  refine (takes_exactly (by decide) year _).bind ?_
  refine (takes_literal '-' _).bind ?_
  refine (takes_pair s.month_lt month _).bind ?_
  refine (takes_literal '-' _).bind ?_
  refine (takes_pair s.day_lt day _).bind ?_
  refine (takes_dateMark known _).bind ?_
  refine (takes_pair (by omega) ⟨Nat.zero_le _, hour⟩ _).bind ?_
  refine (takes_literal ':' _).bind ?_
  refine (takes_pair (by omega) ⟨Nat.zero_le _, minute⟩ _).bind ?_
  refine (takes_literal ':' _).bind ?_
  refine (takes_pair (by omega) ⟨Nat.zero_le _, second⟩ _).bind ?_
  refine (takes_fraction s (endsFraction_of_mem_texts written _)).bind ?_
  refine (takes_offset z written _).bind_to_nil ?_
  change Takes (instant s.read _) _ _ _
  rw [instant_eq]
  exact takes_pure _ _

/-- A stamp with its zone is read as the instant that it names on a clock of the zone. -/
theorem parseStrict?_of_mem_zonedTexts (exist : s.date.Exists) {z : Zone}
    (written : cs ∈ s.zonedTexts z) :
    parseStrict? (String.ofList cs) = some (s.instant z.ahead) := by
  obtain ⟨mark, known, inside⟩ := List.mem_flatMap.mp written
  obtain ⟨zone, zoned, rfl⟩ := List.mem_map.mp inside
  rw [parseStrict?, String.toList_ofList, (takes_strictReader exist z known zoned).run_eq]
  rfl

/-- A date alone ends too early. -/
theorem parseStrict?_dateText (month : 1 ≤ s.month ∧ s.month ≤ 12) (day : 1 ≤ s.day ∧ s.day ≤ 31) :
    parseStrict? (String.ofList s.dateText) = none := by
  have year : s.year < tenTo 4 := s.year_lt
  have refused : strictReader s.dateText = .error .tooShort := by
    rw [← List.append_nil s.dateText]
    unfold strictReader Stamp.dateText
    simp only [List.append_assoc, List.cons_append]
    refine (takes_exactly (by decide) year _).bind_eq.trans ?_
    refine (takes_literal '-' _).bind_eq.trans ?_
    refine (takes_pair s.month_lt month _).bind_eq.trans ?_
    refine (takes_literal '-' _).bind_eq.trans ?_
    refine (takes_pair s.day_lt day _).bind_eq.trans ?_
    exact bind_of_error rfl
  rw [parseStrict?, String.toList_ofList, run, refused]
  rfl

end Rfc3339

end RebateRelay
