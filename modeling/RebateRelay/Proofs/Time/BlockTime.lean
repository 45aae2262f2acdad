import RebateRelay.Proofs.Result
import RebateRelay.Proofs.Time.Reading
import RebateRelay.Time.BlockTime

/-!
# Block times read back

A block time that is written in its layout is read as the instant that its stamp names, and refused
if its date does not exist. The blanks around it and the letters of its zone make no difference. As
instants are ordered by the fields of their stamps, two block times are compared by what they show.
-/

namespace RebateRelay

open Layout Text

/-- A stamp as a block time, with the letters of a zone. -/
def Stamp.blockText (s : Stamp) (zone : List Char) : List Char :=
  s.dateText ++ ' ' :: s.clockText ++ ' ' :: zone

namespace BlockTime

variable {s : Stamp} {stamp zone front back : List Char}

theorem isBlank_of_isLetter {c : Char} (letter : isLetter c = true) : isBlank c = false := by
  have ranges : (decide (65 ≤ c.toNat ∧ c.toNat ≤ 90) ||
      (decide (97 ≤ c.toNat) && decide (c.toNat ≤ 122))) = true := letter
  simp only [Bool.or_eq_true, Bool.and_eq_true, decide_eq_true_eq] at ranges
  unfold isBlank
  simp
  omega

theorem splitAtLastSpace?_append (joined : ' ' ∉ zone) :
    splitAtLastSpace? (stamp ++ ' ' :: zone) = some (stamp, zone) := by
  have passed : ∀ c ∈ zone.reverse, (c != ' ') = true := by
    intro c inside
    rw [List.mem_reverse] at inside
    exact bne_iff_ne.mpr (ne_of_mem_of_not_mem inside joined)
  have turned : (stamp ++ ' ' :: zone).reverse = zone.reverse ++ ' ' :: stamp.reverse := by
    rw [List.reverse_append, List.reverse_cons, List.append_assoc, List.singleton_append]
  unfold splitAtLastSpace?
  dsimp only
  rw [turned, List.dropWhile_append_of_pos passed, List.takeWhile_append_of_pos passed]
  simp

section Zone

variable (filled : zone ≠ []) (letters : ∀ c ∈ zone, isLetter c = true)
include filled letters

/-- A block time has no blanks at its ends. -/
theorem isTrimmed_blockText : IsTrimmed (s.blockText zone) := by
  constructor
  · unfold Stamp.blockText Stamp.dateText
    rw [List.append_assoc, List.append_assoc]
    exact apart_padded 4 s.year _
  · unfold Stamp.blockText
    rw [List.reverse_append, List.reverse_cons, List.append_assoc,
      apart_append (List.reverse_ne_nil_iff.mpr filled)]
    intro c last
    exact isBlank_of_isLetter (letters c (List.mem_reverse.mp (List.mem_of_mem_head? last)))

/-- A block time is read by its stamp, whatever is around it. -/
theorem parse_blockText (before : ∀ c ∈ front, isBlank c = true)
    (after : ∀ c ∈ back, isBlank c = true) :
    parse (String.ofList (front ++ s.blockText zone ++ back)) =
      ((run dateTime (s.dateText ++ ' ' :: s.clockText)).mapError .badStamp >>= fun fields =>
        (fields.timestamp? 0).elim (.error (.badStamp .outOfRange)) .ok) := by
  have trimmed : trimChars (front ++ s.blockText zone ++ back) = s.blockText zone := by
    rw [trimChars_append before after, (isTrimmed_blockText filled letters).trimChars_eq]
  have joined : ' ' ∉ zone := fun space => by cases isBlank_of_isLetter (letters ' ' space)
  have zoned : ¬(zone.isEmpty || !zone.all isLetter) = true := by
    simpa [filled] using letters
  unfold parse
  rw [String.toList_ofList, trimmed, Stamp.blockText, splitAtLastSpace?_append joined]
  dsimp only
  rw [if_neg zoned]
  cases run dateTime (s.dateText ++ ' ' :: s.clockText) with
  | error fault => rfl
  | ok fields =>
      dsimp only
      change _ = (fields.timestamp? 0).elim _ _
      cases fields.timestamp? 0 with
      | none => rfl
      | some t => rfl

/-- A block time is read as the instant that its stamp names. -/
theorem parse_of_exists (exist : s.date.Exists) (before : ∀ c ∈ front, isBlank c = true)
    (after : ∀ c ∈ back, isBlank c = true) :
    parse (String.ofList (front ++ s.blockText zone ++ back)) = .ok (s.instant 0) := by
  obtain ⟨month, day⟩ := Stamp.inRange_of_exists exist
  rw [parse_blockText filled letters before after, run_dateTime month day]
  change (s.read.timestamp? (0 * 60)).elim _ _ = _
  rw [Stamp.timestamp?_read exist (by decide) (by decide), Option.elim_some]

/-- A block time of which the date does not exist is refused. -/
theorem parse_of_not_exists (absent : ¬s.date.Exists) (before : ∀ c ∈ front, isBlank c = true)
    (after : ∀ c ∈ back, isBlank c = true) :
    parse (String.ofList (front ++ s.blockText zone ++ back)) = .error (.badStamp .outOfRange) := by
  rw [parse_blockText filled letters before after]
  by_cases inside : (1 ≤ s.month ∧ s.month ≤ 12) ∧ 1 ≤ s.day ∧ s.day ≤ 31
  · rw [run_dateTime inside.1 inside.2]
    change (s.read.timestamp? 0).elim _ _ = _
    rw [Stamp.timestamp?_read_eq_none absent, Option.elim_none]
  · rw [run_dateTime_eq_error inside]
    rfl

end Zone

/-- The reading of block times inverts their layout. Whatever letters the zone has and whatever blanks
are around it, a stamp with a date that exists is read as the instant that it names: so many days, as
the calendar counts them, and so many minutes, seconds and nanoseconds. A stamp with a date that does
not exist is refused. And two instants that are read are ordered as the fields of their stamps are,
from the year down to the fraction. -/
theorem reads_instant_shown (s : Stamp) {zone front back : List Char} (filled : zone ≠ [])
    (letters : ∀ c ∈ zone, isLetter c = true) (before : ∀ c ∈ front, isBlank c = true)
    (after : ∀ c ∈ back, isBlank c = true) :
    let text := String.ofList (front ++ s.blockText zone ++ back)
    (s.date.Exists → parse text = .ok (s.instant 0)) ∧
    (¬s.date.Exists → parse text = .error (.badStamp .outOfRange)) ∧
    ∀ t : Stamp, s.date.Exists → t.date.Exists →
      (s.instant 0 < t.instant 0 ↔ s.fields < t.fields) ∧
      (s.instant 0 = t.instant 0 ↔ s.fields = t.fields) := by
  intro text
  refine ⟨fun exist => ?named, fun absent => ?refused, fun t exist exist' => ?order⟩
  case named => exact parse_of_exists filled letters exist before after
  case refused => exact parse_of_not_exists filled letters absent before after
  case order =>
    exact ⟨Stamp.instant_lt_iff exist exist', Stamp.instant_eq_iff_fields exist exist'⟩

/-- A leap second between blanks, and the leap day of a year that has none. -/
theorem reads_instant_shown_of_leap_second :
    ['U', 'T', 'C'] ≠ [] ∧ (∀ c ∈ ['U', 'T', 'C'], isLetter c = true) ∧
      (∀ c ∈ ['\t'], isBlank c = true) ∧ (∀ c ∈ ['\n'], isBlank c = true) ∧
      Date.Exists ⟨2016, 12, 31⟩ ∧
      parse "\t2016-12-31 23:59:60.25 UTC\n" = .ok ⟨1483228799, 1250000000⟩ ∧
      ¬Date.Exists ⟨2100, 2, 29⟩ ∧
      parse "\t2100-02-29 00:00:00 UTC\n" = .error (.badStamp .outOfRange) := by
  have letters : ∀ c ∈ ['U', 'T', 'C'], isLetter c = true := by simp [isLetter]
  have tab : ∀ c ∈ ['\t'], isBlank c = true := by simp [isBlank]
  have line : ∀ c ∈ ['\n'], isBlank c = true := by simp [isBlank]
  let leap : Stamp := ⟨2016, 12, 31, 23, 59, 60, ['2', '5'], by decide, by decide, by decide,
    by decide, by decide, by decide, by simp [Number.isDigit, Number.digit?]⟩
  let late : Stamp := ⟨2100, 2, 29, 0, 0, 0, [], by decide, by decide, by decide, by decide,
    by decide, by decide, by simp⟩
  have days : leap.days = 17166 :=
    (Date.dayNumber_eq_elapsed (by decide) (by decide) (by decide)).symm.trans (by decide)
  have instant : leap.instant 0 = ⟨1483228799, 1250000000⟩ := by
    rw [Stamp.instant, Stamp.minutes, days]
    decide
  have there : leap.date.Exists := by decide
  have missing : ¬late.date.Exists := by decide
  obtain ⟨read, -⟩ := reads_instant_shown leap (by decide) letters tab line
  obtain ⟨-, refused, -⟩ := reads_instant_shown late (by decide) letters tab line
  have written : String.ofList (['\t'] ++ leap.blockText ['U', 'T', 'C'] ++ ['\n']) =
      "\t2016-12-31 23:59:60.25 UTC\n" := by decide +kernel
  have written' : String.ofList (['\t'] ++ late.blockText ['U', 'T', 'C'] ++ ['\n']) =
      "\t2100-02-29 00:00:00 UTC\n" := by decide +kernel
  rw [written, instant] at read
  rw [written'] at refused
  exact ⟨by decide, letters, tab, line, there, read there, missing, refused missing⟩

end BlockTime

end RebateRelay
