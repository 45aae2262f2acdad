import Mathlib.Data.List.Basic
import Mathlib.Tactic.SplitIfs
import RebateRelay.Proofs.Number.Spelling
import RebateRelay.Proofs.Time.Calendar
import RebateRelay.Time.Layout

/-!
# Stamps

A stamp is a date and a time of day as they are written: four digits for the year, two for each of
the other fields, and any number of digits behind the point. What it names is found by counting the
days, the minutes and the seconds. So one stamp names an earlier instant than another exactly when
its fields come first, from the year down to the fraction.
-/

namespace RebateRelay

open Number Timestamp

/-- A date and a time of day in digits. The time exists, the date need not. -/
structure Stamp where
  year : ℕ
  month : ℕ
  day : ℕ
  hour : ℕ
  minute : ℕ
  /-- The second sixty is a leap second. -/
  second : ℕ
  /-- The digits behind the point; without a point there are none. -/
  fraction : List Char
  year_lt : year < 10000
  month_lt : month < 100
  day_lt : day < 100
  hour_lt : hour < 24
  minute_lt : minute < 60
  second_le : second ≤ 60
  isDigit : ∀ c ∈ fraction, Number.isDigit c = true

/-- The year in universal time. -/
def Timestamp.year (t : Timestamp) : ℤ := (Date.ofDayNumber (t.seconds / secondsPerDay)).year

namespace Stamp

def date (s : Stamp) : Date := ⟨s.year, s.month, s.day⟩

/-- The whole nanoseconds of the fraction. -/
def nanos (s : Stamp) : ℕ := digitsValue 0 s.fraction * tenTo 9 / tenTo s.fraction.length

/-- The fields from the largest to the smallest. -/
def fields (s : Stamp) : List ℕ :=
  [s.year, s.month, s.day, s.hour, s.minute, s.second, s.nanos]

/-- The date as it is written. -/
def dateText (s : Stamp) : List Char :=
  padded 4 s.year ++ '-' :: (padded 2 s.month ++ '-' :: padded 2 s.day)

/-- The fraction as it is written, with its point. -/
def fractionText (s : Stamp) : List Char :=
  if s.fraction = [] then [] else '.' :: s.fraction

/-- The time of day as it is written. -/
def clockText (s : Stamp) : List Char :=
  padded 2 s.hour ++ ':' :: (padded 2 s.minute ++ ':' :: (padded 2 s.second ++ s.fractionText))

/-- The days from the first of January 1970 to the date. -/
def days (s : Stamp) : ℤ := (Date.elapsed s.year s.month s.day : ℤ) - Date.elapsed 1970 1 1

/-- The minutes since the start of 1970, as a clock counts them that shows the stamp. -/
def minutes (s : Stamp) : ℤ := s.days * 1440 + s.hour * 60 + s.minute

/-- The instant of a stamp on a clock that is so many minutes ahead of universal time. A leap second
is the second before it with a thousand million nanoseconds more. -/
def instant (s : Stamp) (ahead : ℤ) : Timestamp where
  seconds := (s.minutes - ahead) * 60 + min s.second 59
  nanos := s.nanos + if s.second = 60 then 1000000000 else 0

/-- The fields as a reader of the stamp finds them. -/
def read (s : Stamp) : Layout.Fields := ⟨s.date, s.hour, s.minute, s.second, s.nanos⟩

variable {s t : Stamp}

theorem inRange_of_exists (exist : s.date.Exists) :
    (1 ≤ s.month ∧ s.month ≤ 12) ∧ 1 ≤ s.day ∧ s.day ≤ 31 := by
  obtain ⟨-, -, first, last, one, short⟩ := exist
  exact ⟨⟨first, last⟩, one, Nat.le_trans short (Date.daysIn_le _ _)⟩

theorem nanos_lt (s : Stamp) : s.nanos < 1000000000 := by
  have whole : digitsValue 0 s.fraction * tenTo 9 < tenTo s.fraction.length * tenTo 9 :=
    Nat.mul_lt_mul_of_pos_right (digitsValue_lt s.fraction) (tenTo_pos 9)
  exact Nat.div_lt_of_lt_mul whole

/-- Instants are ordered by the minutes and then by the fields below. -/
theorem instant_lt_iff_minutes {ahead ahead' : ℤ} :
    s.instant ahead < t.instant ahead' ↔ s.minutes - ahead < t.minutes - ahead' ∨
      s.minutes - ahead = t.minutes - ahead' ∧ [s.second, s.nanos] < [t.second, t.nanos] := by
  have fraction := s.nanos_lt
  have fraction' := t.nanos_lt
  have second := s.second_le
  have second' := t.second_le
  simp only [instant, Timestamp.lt_def, List.cons_lt_cons_iff, List.not_lt_nil, and_false, or_false]
  split_ifs <;> omega

/-- Two stamps name the same instant when the minutes are the same and the fields below. -/
theorem instant_eq_iff {ahead ahead' : ℤ} :
    s.instant ahead = t.instant ahead' ↔
      s.minutes - ahead = t.minutes - ahead' ∧ s.second = t.second ∧ s.nanos = t.nanos := by
  have fraction := s.nanos_lt
  have fraction' := t.nanos_lt
  have second := s.second_le
  have second' := t.second_le
  simp only [instant, Timestamp.mk.injEq]
  split_ifs <;> omega

/-- The minutes come first by the fields down to the minute. -/
theorem minutes_lt_iff (exist : s.date.Exists) (exist' : t.date.Exists) :
    s.minutes < t.minutes ↔
      [s.year, s.month, s.day, s.hour, s.minute] < [t.year, t.month, t.day, t.hour, t.minute] := by
  have before := Date.elapsed_lt_iff exist exist'
  have behind := Date.elapsed_lt_iff exist' exist
  obtain ⟨hour, minute⟩ := And.intro s.hour_lt s.minute_lt
  obtain ⟨hour', minute'⟩ := And.intro t.hour_lt t.minute_lt
  simp only [minutes, days, List.cons_lt_cons_iff, List.not_lt_nil, and_false, or_false]
  omega

/-- The minutes are the same when the fields down to the minute are. -/
theorem minutes_eq_iff (exist : s.date.Exists) (exist' : t.date.Exists) :
    s.minutes = t.minutes ↔
      [s.year, s.month, s.day, s.hour, s.minute] = [t.year, t.month, t.day, t.hour, t.minute] := by
  have before := Date.elapsed_lt_iff exist exist'
  have behind := Date.elapsed_lt_iff exist' exist
  obtain ⟨hour, minute⟩ := And.intro s.hour_lt s.minute_lt
  obtain ⟨hour', minute'⟩ := And.intro t.hour_lt t.minute_lt
  simp only [minutes, days, List.cons.injEq, and_true]
  omega

/-- Of two stamps the one whose fields come first names the earlier instant. -/
theorem instant_lt_iff (exist : s.date.Exists) (exist' : t.date.Exists) :
    s.instant 0 < t.instant 0 ↔ s.fields < t.fields := by
  rw [instant_lt_iff_minutes, sub_zero, sub_zero, minutes_lt_iff exist exist',
    minutes_eq_iff exist exist']
  simp only [fields, List.cons_lt_cons_iff, List.not_lt_nil, List.cons.injEq, and_false, or_false,
    and_true, and_or_left, or_assoc, and_assoc]

/-- Only the same fields name the same instant. -/
theorem instant_eq_iff_fields (exist : s.date.Exists) (exist' : t.date.Exists) :
    s.instant 0 = t.instant 0 ↔ s.fields = t.fields := by
  rw [instant_eq_iff, sub_zero, sub_zero, minutes_eq_iff exist exist']
  simp only [fields, List.cons.injEq, and_true, and_assoc]

/-! ## The instant of the fields -/

/-- The days of a stamp lie in the ten thousand years that can be written. -/
theorem days_bounds (exist : s.date.Exists) : -719528 ≤ s.days ∧ s.days < 2932897 := by
  have last := Date.sum_daysInYear 10000
  have exist' : Date.Exists ⟨(10000 : ℕ), 1, 1⟩ := by decide
  have before := Date.elapsed_lt_of_before exist exist' (Or.inl s.year_lt)
  have years : Date.elapsed 10000 1 1 = 3652425 := by
    rw [Date.elapsed, Finset.Ico_self, Finset.sum_empty]
    omega
  rw [days, Date.elapsed_epoch]
  omega

/-- The fields of a stamp are those of its instant. -/
theorem timestamp?_read (exist : s.date.Exists) {ahead : ℤ} (least : -1440 < ahead)
    (most : ahead < 1440) : s.read.timestamp? (ahead * 60) = some (s.instant ahead) := by
  obtain ⟨-, -, first, last, one, -⟩ := id exist
  have number : s.date.dayNumber = s.days := Date.dayNumber_eq_elapsed first last one
  obtain ⟨low, high⟩ := days_bounds exist
  obtain ⟨hour, minute⟩ := And.intro s.hour_lt s.minute_lt
  have seconds : s.read.date.dayNumber * Timestamp.secondsPerDay +
      ((s.read.hour * 3600 + s.read.minute * 60 : ℤ) + (min s.read.second 59 : ℕ)) - ahead * 60 =
        (s.instant ahead).seconds := by
    change s.date.dayNumber * 86400 + ((s.hour * 3600 + s.minute * 60 : ℤ) + _) - _ = _
    unfold instant minutes
    dsimp only [read]
    omega
  have years : Date.firstYear ≤
      (Date.ofDayNumber ((s.instant ahead).seconds / Timestamp.secondsPerDay)).year ∧
        (Date.ofDayNumber ((s.instant ahead).seconds / Timestamp.secondsPerDay)).year ≤
          Date.lastYear := by
    unfold instant minutes Timestamp.secondsPerDay
    dsimp only
    exact Date.year_ofDayNumber (by omega) (by omega)
  unfold Layout.Fields.timestamp?
  rw [if_pos (show s.read.date.Exists from exist)]
  dsimp only
  rw [seconds, if_pos years]
  rfl

theorem timestamp?_read_eq_none (absent : ¬s.date.Exists) (offset : ℤ) :
    s.read.timestamp? offset = none := by
  unfold Layout.Fields.timestamp?
  exact if_neg absent

/-! ## Universal time -/

/-- The stamp shows in universal time what another shows on a clock that is so many minutes ahead. -/
structure Shows (u s : Stamp) (ahead : ℤ) : Prop where
  exist : u.date.Exists
  minutes : u.minutes = s.minutes - ahead
  second : u.second = s.second
  nanos : u.nanos = s.nanos

theorem Shows.instant_eq {u : Stamp} {ahead : ℤ} (shown : u.Shows s ahead) :
    u.instant 0 = s.instant ahead := by
  rw [instant_eq_iff, sub_zero]
  exact ⟨shown.minutes, shown.second, shown.nanos⟩

/-- A stamp has one for universal time whenever the year can still be written there. -/
theorem exists_shows {ahead : ℤ} (early : 0 ≤ (s.instant ahead).year)
    (late : (s.instant ahead).year ≤ 9999) : ∃ u : Stamp, u.Shows s ahead := by
  have day : (s.instant ahead).seconds / secondsPerDay = (s.minutes - ahead) / 1440 := by
    have second : ((min s.second 59 : ℕ) : ℤ) ≤ 59 := by omega
    change ((s.minutes - ahead) * 60 + (min s.second 59 : ℕ)) / 86400 = _
    omega
  unfold Timestamp.year at early late
  rw [day] at early late
  generalize shown : s.minutes - ahead = m at day early late
  obtain ⟨number, ⟨first, last⟩, one, short⟩ := Date.ofDayNumber_spec (m / 1440)
  generalize Date.ofDayNumber (m / 1440) = d at number first last one short early late
  have long := Nat.le_trans short (Date.daysIn_le d.year d.month)
  -- The fields in universal time are those of the day and of the minutes that are left.
  let u : Stamp := ⟨d.year.toNat, d.month, d.day, (m % 1440 / 60).toNat, (m % 60).toNat, s.second,
    s.fraction, by omega, by omega, by omega, by omega, by omega, s.second_le, s.isDigit⟩
  have date : u.date = d := by
    rw [Stamp.date, Int.toNat_of_nonneg early]
  have days : u.days = m / 1440 := by
    rw [← number, ← date]
    exact (Date.dayNumber_eq_elapsed first last one).symm
  refine ⟨u, ?exist, ?minutes, rfl, rfl⟩
  case exist =>
    have bounds : Date.firstYear ≤ 0 ∧ (9999 : ℤ) ≤ Date.lastYear := by decide
    rw [date]
    exact ⟨Int.le_trans bounds.1 early, Int.le_trans late bounds.2, first, last, one, short⟩
  case minutes =>
    rw [shown, Stamp.minutes, days]
    dsimp only [u]
    omega

end Stamp

end RebateRelay
