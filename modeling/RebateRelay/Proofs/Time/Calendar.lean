import Mathlib.Algebra.BigOperators.Intervals
import Mathlib.Algebra.Order.BigOperators.Group.Finset
import Mathlib.Tactic.IntervalCases
import Mathlib.Tactic.SplitIfs
import RebateRelay.Time.Calendar

/-!
# Counting days

The number of a date is the number of days that have passed: those of the years before, those of the
months before in its year, and those before in its month. So dates follow one another as their years,
months and days do. The other way round, every day has its date, and that date has its number.
-/

namespace RebateRelay.Date

/-- The days of a year. -/
def daysInYear (year : ℕ) : ℕ := if isLeapYear year then 366 else 365

/-- The days from the first of January of year zero to a date. -/
def elapsed (year month day : ℕ) : ℕ :=
  (∑ y ∈ Finset.range year, daysInYear y) + (∑ m ∈ Finset.Ico 1 month, daysIn year m) + (day - 1)

theorem isLeapYear_iff {year : ℤ} :
    isLeapYear year = true ↔ year % 4 = 0 ∧ (year % 100 ≠ 0 ∨ year % 400 = 0) := by
  simp [isLeapYear]

theorem daysInYear_of_leap {year : ℕ} (leap : isLeapYear year = true) : daysInYear year = 366 :=
  if_pos leap

theorem daysInYear_of_common {year : ℕ} (common : isLeapYear year = false) :
    daysInYear year = 365 :=
  if_neg (Bool.not_eq_true _ ▸ common)

/-! ## Whole years and whole months -/

variable {year year' month month' day day' : ℕ}

/-- The years before a year have 365 days each and the leap days among them. -/
theorem sum_daysInYear (year : ℕ) :
    ((∑ y ∈ Finset.range year, daysInYear y : ℕ) : ℤ) =
      365 * (year - 1 : ℤ) + (year - 1 : ℤ) / 4 - (year - 1 : ℤ) / 100 + (year - 1 : ℤ) / 400 +
        366 := by
  induction year with
  | zero => rfl
  | succ year ih =>
      rw [Finset.sum_range_succ]
      cases leap : isLeapYear year with
      | true =>
          rw [daysInYear_of_leap leap]
          rw [isLeapYear_iff] at leap
          omega
      | false =>
          rw [daysInYear_of_common leap]
          rw [← Bool.not_eq_true, isLeapYear_iff] at leap
          omega

/-- January and February stand at the end of a year that is counted from March. -/
theorem sum_daysIn_of_le_two (year : ℕ) (first : 1 ≤ month) (winter : month ≤ 2) :
    (∑ m ∈ Finset.Ico 1 month, daysIn year m) + 306 = (153 * ((month + 9) % 12) + 2) / 5 := by
  interval_cases month <;> simp [daysIn]

/-- From March on, the months have passed that end the year before and those since. -/
theorem sum_daysIn_of_two_lt (year : ℕ) (spring : 2 < month) (last : month ≤ 12) :
    (∑ m ∈ Finset.Ico 1 month, daysIn year m) + 306 =
      daysInYear year + (153 * ((month + 9) % 12) + 2) / 5 := by
  cases leap : isLeapYear year with
  | true =>
      rw [daysInYear_of_leap leap]
      interval_cases month <;> simp [Finset.sum_Ico_succ_top, daysIn, leap]
  | false =>
      rw [daysInYear_of_common leap]
      interval_cases month <;> simp [Finset.sum_Ico_succ_top, daysIn, leap]

/-- The months of a year make up the year. -/
theorem sum_daysIn_year (year : ℕ) : ∑ m ∈ Finset.Ico 1 13, daysIn year m = daysInYear year := by
  have december := sum_daysIn_of_two_lt year (by decide : 2 < 12) (by decide)
  rw [Finset.sum_Ico_succ_top (by decide)]
  have last : daysIn year 12 = 31 := rfl
  omega

/-! ## The number of a date -/

/-- The year that a date belongs to when years begin in March. -/
def marchYear (d : Date) : ℤ := if d.month ≤ 2 then d.year - 1 else d.year

theorem dayNumber_eq_march (d : Date) :
    d.dayNumber = 365 * d.marchYear + d.marchYear / 4 - d.marchYear / 100 + d.marchYear / 400 +
      ((153 * ((d.month + 9) % 12) + 2) / 5 : ℕ) + d.day - 1 - epochShift := by
  unfold dayNumber daysPerCycle
  rw [← marchYear]
  generalize d.marchYear = y
  push_cast
  omega

theorem elapsed_epoch : elapsed 1970 1 1 = 719528 := by
  have years := sum_daysInYear 1970
  rw [elapsed, Finset.Ico_self, Finset.sum_empty]
  omega

/-- The number of a date counts the days since the first of January 1970. -/
theorem dayNumber_eq_elapsed (first : 1 ≤ month) (last : month ≤ 12) (positive : 1 ≤ day) :
    dayNumber ⟨year, month, day⟩ = (elapsed year month day : ℤ) - elapsed 1970 1 1 := by
  rw [dayNumber_eq_march, elapsed_epoch, elapsed, epochShift]
  dsimp only
  by_cases winter : month ≤ 2
  · have march : marchYear ⟨year, month, day⟩ = year - 1 := if_pos winter
    have years := sum_daysInYear year
    have months := sum_daysIn_of_le_two year first winter
    rw [march]
    generalize (153 * ((month + 9) % 12) + 2) / 5 = before at months ⊢
    omega
  · have march : marchYear ⟨year, month, day⟩ = year := if_neg winter
    have years := sum_daysInYear (year + 1)
    have months := sum_daysIn_of_two_lt year (Nat.not_le.mp winter) last
    rw [Finset.sum_range_succ, Nat.cast_succ, add_sub_cancel_right] at years
    rw [march]
    generalize (153 * ((month + 9) % 12) + 2) / 5 = before at months ⊢
    omega

/-! ## The order of dates -/

theorem sum_daysInYear_le (later : year < year') :
    (∑ y ∈ Finset.range year, daysInYear y) + daysInYear year ≤
      ∑ y ∈ Finset.range year', daysInYear y := by
  rw [← Finset.sum_range_succ]
  exact Finset.sum_le_sum_of_subset (Finset.range_subset_range.mpr later)

theorem sum_daysIn_le (year : ℕ) (first : 1 ≤ month) (later : month < month') :
    (∑ m ∈ Finset.Ico 1 month, daysIn year m) + daysIn year month ≤
      ∑ m ∈ Finset.Ico 1 month', daysIn year m := by
  rw [← Finset.sum_Ico_succ_top first]
  exact Finset.sum_le_sum_of_subset (Finset.Ico_subset_Ico_right later)

/-- A date that comes later by its year, its month or its day comes after more days. -/
theorem elapsed_lt_of_before (exist : Exists ⟨year, month, day⟩)
    (exist' : Exists ⟨year', month', day'⟩)
    (before : year < year' ∨ year = year' ∧ (month < month' ∨ month = month' ∧ day < day')) :
    elapsed year month day < elapsed year' month' day' := by
  obtain ⟨-, -, first, last, one, inside⟩ := exist
  obtain ⟨-, -, -, -, one', -⟩ := exist'
  dsimp only at first last one inside one'
  unfold elapsed
  rcases before with later | ⟨rfl, later | ⟨rfl, later⟩⟩
  · have years := sum_daysInYear_le later
    have months := sum_daysIn_le year first (Nat.lt_succ_of_le last)
    rw [sum_daysIn_year] at months
    omega
  · have months := sum_daysIn_le year first later
    omega
  · omega

theorem elapsed_lt_iff (exist : Exists ⟨year, month, day⟩)
    (exist' : Exists ⟨year', month', day'⟩) :
    elapsed year month day < elapsed year' month' day' ↔
      year < year' ∨ year = year' ∧ (month < month' ∨ month = month' ∧ day < day') := by
  constructor
  · intro fewer
    by_contra other
    by_cases same : year = year' ∧ month = month' ∧ day = day'
    · obtain ⟨rfl, rfl, rfl⟩ := same
      exact Nat.lt_irrefl _ fewer
    · have more := elapsed_lt_of_before exist' exist (by omega)
      exact Nat.lt_asymm fewer more
  · exact elapsed_lt_of_before exist exist'

/-! ## The date of a day -/

/-- The date of a day in a year that begins in March. -/
def ofMarch (year day : ℤ) : Date :=
  let monthFromMarch := (5 * day + 2) / 153
  let month := if monthFromMarch < 10 then monthFromMarch + 3 else monthFromMarch - 9
  ⟨if month ≤ 2 then year + 1 else year, month.toNat,
    (day - (153 * monthFromMarch + 2) / 5 + 1).toNat⟩

/-- The place of a day in four hundred years: its century, its span of four years, its year and the
day of that year. Only the last year of a span has a day 365, and of the last years of the centuries
only that of the fourth. -/
structure Place where
  century : ℤ
  span : ℤ
  year : ℤ
  day : ℤ
  centuries : 0 ≤ century ∧ century ≤ 3
  spans : 0 ≤ span ∧ span ≤ 24
  years : 0 ≤ year ∧ year ≤ 3
  nonneg : 0 ≤ day
  short : day ≤ 364 ∨ day = 365 ∧ year = 3 ∧ (span ≠ 24 ∨ century = 3)

namespace Place

/-- The days of the four hundred years that come before. -/
def daysBefore (p : Place) : ℤ := 36524 * p.century + 1461 * p.span + 365 * p.year + p.day

/-- The years of the four hundred that come before. -/
def yearsBefore (p : Place) : ℤ := 100 * p.century + 4 * p.span + p.year

/-- Every day of the four hundred years has a place. -/
theorem exists_eq_daysBefore {day : ℤ} (nonneg : 0 ≤ day) (below : day < daysPerCycle) :
    ∃ p : Place, p.daysBefore = day := by
  unfold daysPerCycle at below
  obtain ⟨century, centuries, least, most⟩ : ∃ century : ℤ, (0 ≤ century ∧ century ≤ 3) ∧
      36524 * century ≤ day ∧
      (day < 36524 * (century + 1) ∨ century = 3 ∧ day ≤ 36524 * (century + 1)) :=
    ⟨min (day / 36524) 3, by omega, by omega, by omega⟩
  obtain ⟨span, spans, least, most⟩ : ∃ span : ℤ, (0 ≤ span ∧ span ≤ 24) ∧
      36524 * century + 1461 * span ≤ day ∧ day < 36524 * century + 1461 * (span + 1) :=
    ⟨(day - 36524 * century) / 1461, by omega, by omega, by omega⟩
  obtain ⟨year, years, rest, short⟩ : ∃ year : ℤ, (0 ≤ year ∧ year ≤ 3) ∧
      36524 * century + 1461 * span + 365 * year ≤ day ∧
      (day < 36524 * century + 1461 * span + 365 * (year + 1) ∨
        year = 3 ∧ day ≤ 36524 * century + 1461 * span + 365 * (year + 1)) :=
    ⟨min ((day - 36524 * century - 1461 * span) / 365) 3, by omega, by omega, by omega⟩
  refine ⟨⟨century, span, year, day - (36524 * century + 1461 * span + 365 * year), centuries,
    spans, years, by omega, by omega⟩, ?_⟩
  exact add_sub_cancel _ _

/-- The years before a day, from the number of days: a day is taken off for each leap day. -/
theorem yearsBefore_eq (p : Place) :
    (p.daysBefore - p.daysBefore / 1460 + p.daysBefore / 36524 - p.daysBefore / 146096) / 365 =
      p.yearsBefore := by
  obtain ⟨century, span, year, day, centuries, spans, years, nonneg, short⟩ := p
  unfold daysBefore yearsBefore
  dsimp only
  generalize whole : 36524 * century + 1461 * span + 365 * year + day = days
  have kept : days / 36524 - days / 146096 = century := by
    obtain ⟨_, _⟩ | ⟨_, _⟩ : days = 146096 ∧ century = 3 ∨
        days / 146096 = 0 ∧ days / 36524 = century := by omega
    · omega
    · omega
  obtain ⟨carry, leaps, least, most⟩ : ∃ carry : ℤ, days / 1460 = 25 * century + span + carry ∧
      0 ≤ day - carry ∧ day - carry ≤ 364 :=
    ⟨days / 1460 - (25 * century + span), by omega, by omega, by omega⟩
  omega

/-- The day in its year, from the number of days and of years. -/
theorem day_eq (p : Place) :
    p.daysBefore - (365 * p.yearsBefore + p.yearsBefore / 4 - p.yearsBefore / 100) = p.day := by
  obtain ⟨century, span, year, day, centuries, spans, years, nonneg, short⟩ := p
  unfold daysBefore yearsBefore
  dsimp only
  have quarters : (100 * century + 4 * span + year) / 4 = 25 * century + span := by omega
  have hundreds : (100 * century + 4 * span + year) / 100 = century := by omega
  omega

theorem daysBefore_bounds (p : Place) : 0 ≤ p.daysBefore ∧ p.daysBefore < daysPerCycle := by
  obtain ⟨century, span, year, day, centuries, spans, years, nonneg, short⟩ := p
  unfold daysBefore daysPerCycle
  dsimp only
  omega

theorem yearsBefore_bounds (p : Place) : 0 ≤ p.yearsBefore ∧ p.yearsBefore < 400 := by
  obtain ⟨century, span, year, day, centuries, spans, years, nonneg, short⟩ := p
  unfold yearsBefore
  dsimp only
  omega

theorem isLeapYear_of_day (p : Place) (cycle : ℤ) (full : p.day = 365) :
    isLeapYear (400 * cycle + p.yearsBefore + 1) = true := by
  obtain ⟨century, span, year, day, centuries, spans, years, nonneg, short⟩ := p
  rw [isLeapYear_iff]
  unfold yearsBefore
  dsimp only at full ⊢
  omega

end Place

/-- A day is found by its four hundred years and its place in them. -/
theorem ofDayNumber_eq (cycle : ℤ) (p : Place) :
    ofDayNumber (daysPerCycle * cycle + p.daysBefore - epochShift) =
      ofMarch (400 * cycle + p.yearsBefore) p.day := by
  have bounds := p.daysBefore_bounds
  have cycles : (daysPerCycle * cycle + p.daysBefore) / daysPerCycle = cycle := by
    unfold daysPerCycle at bounds ⊢
    omega
  have rest : daysPerCycle * cycle + p.daysBefore - cycle * daysPerCycle = p.daysBefore := by
    rw [Int.mul_comm, add_sub_cancel_left]
  unfold ofDayNumber ofMarch
  simp only [sub_add_cancel, cycles, rest, p.yearsBefore_eq, p.day_eq]
  rw [Int.add_comm p.yearsBefore, Int.mul_comm cycle]

/-- A day of a year that begins in March has a date of that year, the one after so many days. The
year has a day 365 if it ends with a leap day. -/
theorem ofMarch_spec {year day : ℤ} (nonneg : 0 ≤ day) (most : day ≤ 365)
    (leap : day = 365 → isLeapYear (year + 1) = true) :
    let d := ofMarch year day
    d.marchYear = year ∧ ((153 * ((d.month + 9) % 12) + 2) / 5 : ℕ) + d.day = day + 1 ∧
      (1 ≤ d.month ∧ d.month ≤ 12) ∧ 1 ≤ d.day ∧ d.day ≤ daysIn d.year d.month := by
  obtain ⟨month, found⟩ : ∃ month, month = (5 * day + 2) / 153 := ⟨_, rfl⟩
  have least : 0 ≤ month := by omega
  have last : month ≤ 11 := by omega
  unfold marchYear ofMarch
  dsimp only
  rw [← found]
  obtain rfl | _ : month = 11 ∨ month ≤ 10 := by omega
  · -- The year ends with February, which is as long as the year allows.
    cases last : isLeapYear (year + 1) with
    | true =>
        simp [daysIn, last]
        omega
    | false =>
        have short : day ≠ 365 := fun full => by simp [leap full] at last
        simp [daysIn, last]
        omega
  · interval_cases month <;> simp [daysIn] <;> omega

/-- Every day has a date, whose number it is. -/
theorem ofDayNumber_spec (n : ℤ) :
    let d := ofDayNumber n
    d.dayNumber = n ∧ (1 ≤ d.month ∧ d.month ≤ 12) ∧ 1 ≤ d.day ∧ d.day ≤ daysIn d.year d.month := by
  have positive : (0 : ℤ) < daysPerCycle := by decide
  obtain ⟨p, rest⟩ := Place.exists_eq_daysBefore
    (Int.emod_nonneg (n + epochShift) (ne_of_gt positive)) (Int.emod_lt_of_pos _ positive)
  obtain ⟨cycle, whole⟩ : ∃ cycle, n = daysPerCycle * cycle + p.daysBefore - epochShift :=
    ⟨(n + epochShift) / daysPerCycle, by rw [rest, Int.mul_ediv_add_emod, add_sub_cancel_right]⟩
  have most : p.day ≤ 365 := by
    obtain short | ⟨full, -⟩ := p.short
    · omega
    · omega
  obtain ⟨march, counted, months, days⟩ :=
    ofMarch_spec p.nonneg most (p.isLeapYear_of_day cycle)
  rw [whole, ofDayNumber_eq]
  refine ⟨?_, months, days⟩
  have day := p.day_eq
  have years := p.yearsBefore_bounds
  have cycles : (400 * cycle + p.yearsBefore) / 400 = cycle := by omega
  rw [dayNumber_eq_march, march]
  unfold daysPerCycle
  omega

theorem daysIn_le (year : ℤ) (month : ℕ) : daysIn year month ≤ 31 := by
  unfold daysIn
  split_ifs <;> decide

/-- Days within some thousands of years have dates well within the calendar. -/
theorem year_ofDayNumber {n : ℤ} (least : -1000000 ≤ n) (most : n ≤ 3000000) :
    firstYear ≤ (ofDayNumber n).year ∧ (ofDayNumber n).year ≤ lastYear := by
  obtain ⟨number, -, one, short⟩ := ofDayNumber_spec n
  have short := Nat.le_trans short (daysIn_le _ _)
  have near : (ofDayNumber n).year - 1 ≤ (ofDayNumber n).marchYear ∧
      (ofDayNumber n).marchYear ≤ (ofDayNumber n).year := by
    unfold marchYear
    split_ifs <;> omega
  have months : (153 * (((ofDayNumber n).month + 9) % 12) + 2) / 5 ≤ 337 := by omega
  rw [dayNumber_eq_march] at number
  unfold epochShift at number
  unfold firstYear lastYear
  omega

end RebateRelay.Date
