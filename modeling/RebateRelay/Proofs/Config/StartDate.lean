import RebateRelay.Config.StartDate
import RebateRelay.Ingest.Normalize
import RebateRelay.Proofs.Time.BlockTime
import RebateRelay.Proofs.Time.Offset

/-!
# The start date on the time line of the rows

A date alone and the midnight of that date are the same start date. An instant with an offset is
brought to universal time, where it is the instant that a block time with those fields is read as. So
the rows that are passed over are exactly those that are stamped no later than the start date.
-/

namespace RebateRelay

open Layout

/-- The instant one nanosecond later. Behind the last nanosecond of a second, be it a leap second,
comes the next second. -/
def Timestamp.next (t : Timestamp) : Timestamp :=
  if (t.nanos + 1) % nanosPerSecond = 0 then ⟨t.seconds + 1, 0⟩ else ⟨t.seconds, t.nanos + 1⟩

theorem Timestamp.lt_next (t : Timestamp) : t < t.next := by
  unfold next
  split
  · exact Or.inl (Int.lt_succ t.seconds)
  · exact Or.inr ⟨rfl, Nat.lt_succ_self t.nanos⟩

/-- The first moment of the date of a stamp. -/
def Stamp.midnight (s : Stamp) : Stamp :=
  { s with
    hour := 0, minute := 0, second := 0, fraction := []
    hour_lt := Nat.zero_lt_of_lt s.hour_lt
    minute_lt := Nat.zero_lt_of_lt s.minute_lt
    second_le := Nat.zero_le 60
    isDigit := fun _ inside => absurd inside List.not_mem_nil }

namespace StartDate

variable {s : Stamp} {z : Zone} {cs : List Char} {cutoff : Timestamp}

/-- A date alone stands for its first moment. -/
theorem parse?_dateText (exist : s.date.Exists) :
    parse? (String.ofList s.dateText) = some (s.midnight.instant 0) := by
  obtain ⟨month, day⟩ := Stamp.inRange_of_exists exist
  have read : run (date false) s.dateText = .ok s.date := (takes_date month day []).run_eq
  have fields : s.midnight.read = ⟨s.date, 0, 0, 0, 0⟩ := by
    have zero : s.midnight.nanos = 0 := by
      rw [Stamp.nanos, Stamp.midnight, Number.digitsValue_nil, Nat.zero_mul, Nat.zero_div]
    rw [Stamp.read, zero]
    rfl
  have there : s.midnight.date.Exists := exist
  have begins : s.midnight.read.timestamp? (0 * 60) = some (s.midnight.instant 0) :=
    Stamp.timestamp?_read there (by decide) (by decide)
  rw [fields, zero_mul] at begins
  rw [parse?, Rfc3339.parseStrict?_dateText month day, Option.none_or, parseDate?,
    String.toList_ofList, read]
  exact begins

/-- A stamp with its zone stands for the instant that it names. -/
theorem parse?_of_mem_zonedTexts (exist : s.date.Exists) (written : cs ∈ s.zonedTexts z) :
    parse? (String.ofList cs) = some (s.instant z.ahead) := by
  rw [parse?, Rfc3339.parseStrict?_of_mem_zonedTexts exist written, Option.some_or]

theorem midnight_mem_zonedTexts (s : Stamp) :
    s.dateText ++ ['T', '0', '0', ':', '0', '0', ':', '0', '0', 'Z'] ∈
      s.midnight.zonedTexts .universal := by
  have zero : Timestamp.padded 2 0 = ['0', '0'] := by decide +kernel
  have clock : s.midnight.clockText = ['0', '0', ':', '0', '0', ':', '0', '0'] := by
    change Timestamp.padded 2 0 ++ ':' :: (Timestamp.padded 2 0 ++ ':' :: (Timestamp.padded 2 0 ++ []))
      = _
    rw [zero]
    rfl
  refine List.mem_flatMap.mpr ⟨'T', List.mem_cons_self, ?_⟩
  refine List.mem_map.mpr ⟨['Z'], List.mem_cons_self, ?_⟩
  rw [clock]
  rfl

/-! ## Rows at the cutoff -/

section Rows

variable {row : Row} {before after : List Row} {later : Timestamp} {job : String}

theorem normalize_of_blockTime_eq (stamped : row.blockTime = some cutoff) :
    normalize (before ++ row :: after) cutoff job = normalize (before ++ after) cutoff job := by
  have passed : row.eligible? cutoff job = none := by
    rw [Row.eligible?, stamped]
    exact if_neg (Timestamp.lt_irrefl cutoff)
  simp only [normalize, List.filterMap_append, List.filterMap_cons, passed]

theorem normalize_of_lt (order : cutoff < later) (stamped : row.blockTime = some later) :
    normalize (before ++ row :: after) cutoff job =
      normalize before cutoff job ++ row.record later job :: normalize after cutoff job := by
  have kept : row.eligible? cutoff job = some (row.record later job) := by
    rw [Row.eligible?, stamped]
    exact if_pos order
  simp only [normalize, List.filterMap_append, List.filterMap_cons, kept]

end Rows

/-- The three readings share one time line. A date alone is read as its first moment in universal
time. A stamp with its zone is read as its fields less the offset, whichever way it is written, so two
such texts are the same start date exactly when they name the same instant. If the year can still be
written in universal time, there is a stamp that shows the instant there, and every such stamp is read
from a block time as that very instant. A row that is stamped with it is passed over, and one that is
stamped later is kept, be it by a nanosecond. -/
theorem spellings_agree (s : Stamp) (z : Zone) {text : List Char} (exist : s.date.Exists)
    (written : text ∈ s.zonedTexts z) :
    let cutoff := s.instant z.ahead
    (parse? (String.ofList s.dateText) = some (s.midnight.instant 0) ∧
      parse? (String.ofList s.dateText) =
        parse? (String.ofList (s.dateText ++ "T00:00:00Z".toList))) ∧
    parse? (String.ofList text) = some cutoff ∧
    (∀ (s' : Stamp) (z' : Zone), s'.date.Exists → ∀ text' ∈ s'.zonedTexts z',
      (parse? (String.ofList text') = parse? (String.ofList text) ↔
        s'.minutes - z'.ahead = s.minutes - z.ahead ∧ s'.second = s.second ∧
          s'.nanos = s.nanos)) ∧
    (0 ≤ cutoff.year → cutoff.year ≤ 9999 → ∃ u : Stamp, u.Shows s z.ahead) ∧
    (∀ (u : Stamp) (zone : List Char), u.Shows s z.ahead → zone ≠ [] →
      (∀ c ∈ zone, BlockTime.isLetter c = true) →
        BlockTime.parse (String.ofList (u.blockText zone)) = .ok cutoff) ∧
    ∀ (row : Row) (before after : List Row) (job : String),
      (row.blockTime = some cutoff →
        normalize (before ++ row :: after) cutoff job = normalize (before ++ after) cutoff job) ∧
      cutoff < cutoff.next ∧
      ∀ later, cutoff < later → row.blockTime = some later →
        normalize (before ++ row :: after) cutoff job =
          normalize before cutoff job ++ row.record later job :: normalize after cutoff job := by
  intro cutoff
  have read : parse? (String.ofList text) = some cutoff := parse?_of_mem_zonedTexts exist written
  have there : s.midnight.date.Exists := exist
  have date : parse? (String.ofList s.dateText) = some (s.midnight.instant 0) :=
    parse?_dateText exist
  refine ⟨⟨date, ?date⟩, read, ?same, Stamp.exists_shows, ?block, ?rows⟩
  case date =>
    have midnight := parse?_of_mem_zonedTexts there (midnight_mem_zonedTexts s)
    exact date.trans midnight.symm
  case same =>
    intro s' z' exist' text' written'
    rw [read, parse?_of_mem_zonedTexts exist' written', Option.some.injEq]
    exact Stamp.instant_eq_iff
  case block =>
    intro u zone shown filled letters
    have read := BlockTime.parse_of_exists filled letters shown.exist (List.forall_mem_nil _)
      (List.forall_mem_nil _)
    rw [List.nil_append, List.append_nil, shown.instant_eq] at read
    exact read
  case rows =>
    intro row before after job
    exact ⟨normalize_of_blockTime_eq, cutoff.lt_next, fun later => normalize_of_lt⟩

/-- An evening west of Greenwich at the end of a year. -/
theorem spellings_agree_at_new_year :
    ∃ (s u : Stamp) (z : Zone), s.date.Exists ∧
      "2023-12-31 20:30:00.5-05:00".toList ∈ s.zonedTexts z ∧ u.Shows s z.ahead ∧
      parse? "2023-12-31" = parse? "2023-12-31T00:00:00Z" ∧
      parse? "2023-12-31 20:30:00.5-05:00" = some ⟨1704072600, 500000000⟩ ∧
      BlockTime.parse "2024-01-01 01:30:00.5 UTC" = .ok ⟨1704072600, 500000000⟩ := by
  let west : Zone := .offset true 5 0 (by decide) (by decide)
  let evening : Stamp := ⟨2023, 12, 31, 20, 30, 0, ['5'], by decide, by decide, by decide,
    by decide, by decide, by decide, by simp [Number.isDigit, Number.digit?]⟩
  let night : Stamp := ⟨2024, 1, 1, 1, 30, 0, ['5'], by decide, by decide, by decide,
    by decide, by decide, by decide, by simp [Number.isDigit, Number.digit?]⟩
  have there : evening.date.Exists := by decide
  have written : "2023-12-31 20:30:00.5-05:00".toList ∈ evening.zonedTexts west := by
    decide +kernel
  have days : evening.days = 19722 :=
    (Date.dayNumber_eq_elapsed (by decide) (by decide) (by decide)).symm.trans (by decide)
  have days' : night.days = 19723 :=
    (Date.dayNumber_eq_elapsed (by decide) (by decide) (by decide)).symm.trans (by decide)
  have instant : evening.instant west.ahead = ⟨1704072600, 500000000⟩ := by
    rw [Stamp.instant, Stamp.minutes, days]
    decide
  have shown : night.Shows evening west.ahead := by
    refine ⟨by decide, ?_, rfl, rfl⟩
    rw [Stamp.minutes, Stamp.minutes, days, days']
    decide
  have letters : ∀ c ∈ ['U', 'T', 'C'], BlockTime.isLetter c = true := by
    simp [BlockTime.isLetter]
  obtain ⟨⟨-, date⟩, read, -, -, block, -⟩ := spellings_agree evening west there written
  have block := block night ['U', 'T', 'C'] shown (by decide) letters
  have alone : String.ofList evening.dateText = "2023-12-31" := by decide +kernel
  have midnight : String.ofList (evening.dateText ++ "T00:00:00Z".toList) =
      "2023-12-31T00:00:00Z" := by decide +kernel
  have stamped : String.ofList (night.blockText ['U', 'T', 'C']) =
      "2024-01-01 01:30:00.5 UTC" := by decide +kernel
  rw [alone, midnight] at date
  rw [String.ofList_toList, instant] at read
  rw [stamped, instant] at block
  exact ⟨evening, night, west, there, written, shown, date, read, block⟩

end StartDate

end RebateRelay
