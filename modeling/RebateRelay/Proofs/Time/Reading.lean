import Mathlib.Data.Nat.Digits.Defs
import RebateRelay.Proofs.Number.Rounding
import RebateRelay.Proofs.Text.Trimming
import RebateRelay.Proofs.Time.Stamp

/-!
# Reading what is written

Each reader has one law, which says what it takes off the front of a text that was written for it,
whatever follows. The laws are put together as the readers are, up to the date and the time of day
of a stamp. A date of which the month or the day is out of any range is refused on the spot.
-/

namespace RebateRelay

/-! ## Numbers of a fixed width -/

namespace Timestamp

open Number

variable {width n : ℕ} {rest : List Char}

theorem isDigit_of_mem_padded {c : Char} (inside : c ∈ padded width n) : isDigit c = true := by
  obtain zero | digit := List.mem_append.mp inside
  · rw [List.eq_of_mem_replicate zero]
    rfl
  · exact isDigit_of_mem_decimalDigits digit

theorem length_padded (positive : 0 < width) (fits : n < tenTo width) :
    (padded width n).length = width := by
  have short : (decimalDigits n).length ≤ width := Nat.toDigits_length 10 n width positive fits
  rw [padded, List.length_append, List.length_replicate, Nat.sub_add_cancel short]

theorem padded_ne_nil (width n : ℕ) : padded width n ≠ [] :=
  List.append_ne_nil_of_right_ne_nil _ (decimalDigits_ne_nil n)

/-- Zeros in front do not count. -/
theorem digitsValue_padded (width n : ℕ) : digitsValue 0 (padded width n) = n := by
  have zeros (k : ℕ) : digitsValue 0 (List.replicate k '0') = 0 := by
    induction k with
    | zero => rfl
    | succ k ih => exact ih
  rw [padded, digitsValue_append, zeros, digitsValue_decimalDigits]

theorem isDigit_of_head_padded {c : Char} {cs : List Char}
    (front : padded width n ++ rest = c :: cs) : isDigit c = true := by
  have first : (padded width n ++ rest).head? = some c := by rw [front, List.head?_cons]
  rw [List.head?_append_of_ne_nil _ (padded_ne_nil width n)] at first
  exact isDigit_of_mem_padded (List.mem_of_mem_head? first)

end Timestamp

namespace Layout

open Number Text Timestamp

/-! ## Taking a text -/

variable {α β : Type} {reader : Reader α} {next : α → Reader β} {a : α} {b : β}
variable {text text' rest cs : List Char} {fault : Fault}

/-- The reader takes the text off the front and leaves the rest. -/
def Takes (reader : Reader α) (text : List Char) (a : α) (rest : List Char) : Prop :=
  reader (text ++ rest) = .ok (a, rest)

theorem bind_of_error (refused : reader cs = .error fault) :
    (reader >>= next) cs = .error fault := by
  change Except.bind (reader cs) _ = _
  rw [refused]
  rfl

theorem Takes.bind_eq (taken : Takes reader text a rest) :
    (reader >>= next) (text ++ rest) = next a rest := by
  change Except.bind (reader (text ++ rest)) _ = _
  rw [taken]
  rfl

theorem Takes.bind (first : Takes reader text a (text' ++ rest))
    (second : Takes (next a) text' b rest) : Takes (reader >>= next) (text ++ text') b rest := by
  unfold Takes
  rw [List.append_assoc, first.bind_eq]
  exact second

/-- A step that takes nothing. -/
theorem Takes.bind_of_nil (first : Takes reader [] a (text ++ rest))
    (second : Takes (next a) text b rest) : Takes (reader >>= next) text b rest :=
  first.bind second

/-- A step after which nothing is taken. -/
theorem Takes.bind_to_nil (first : Takes reader text a rest) (second : Takes (next a) [] b rest) :
    Takes (reader >>= next) text b rest := by
  rw [← List.append_nil text]
  exact Takes.bind first second

theorem Takes.run_eq (taken : Takes reader text a []) : run reader text = .ok a := by
  unfold Takes at taken
  rw [List.append_nil] at taken
  rw [run, taken]

theorem takes_pure (a : α) (rest : List Char) : Takes (pure a) [] a rest := rfl

theorem takes_get (rest : List Char) : Takes get [] rest rest := rfl

theorem takes_literal (c : Char) (rest : List Char) : Takes (literal c) [c] () rest := by
  change (if c = c then set rest else throw .invalid : Reader Unit) (c :: rest) = _
  rw [if_pos rfl]
  rfl

theorem takes_separator (c : Char) (rest : List Char) : Takes (separator false c) [c] () rest :=
  takes_literal c rest

theorem separator_bind (c : Char) {next : Unit → Reader β} (rest : List Char) :
    (separator false c >>= next) (c :: rest) = next () rest :=
  (takes_separator c rest).bind_eq

theorem takes_blanks (blank : ∀ c ∈ text, isBlank c = true) (apart : Apart isBlank rest) :
    Takes blanks text () rest := by
  change Except.ok ((), skipBlank (text ++ rest)) = _
  have skipped : skipBlank (text ++ rest) = skipBlank rest := List.dropWhile_append_of_pos blank
  have kept : skipBlank rest = rest := apart.dropWhile_eq
  rw [skipped, kept]

theorem digits_eq {most : ℕ} (taken : (cs.take most).takeWhile isDigit = text)
    (some : text ≠ []) : digits most cs = .ok (text, cs.drop text.length) := by
  have filled : ¬((cs.take most).takeWhile isDigit).isEmpty = true := by
    rw [taken, List.isEmpty_iff]
    exact some
  change (if ((cs.take most).takeWhile isDigit).isEmpty then _ else _ : Reader (List Char)) cs = _
  rw [if_neg filled, taken]
  rfl

/-! ## Fields -/

section Fields

variable {width n low high : ℕ}

/-- Of digits in a row no more are taken than the number has. -/
theorem takes_padded (positive : 0 < width) (fits : n < tenTo width) (rest : List Char) :
    Takes (digits width) (padded width n) (padded width n) rest := by
  have long := length_padded positive fits
  have taken : ((padded width n ++ rest).take width).takeWhile isDigit = padded width n := by
    rw [List.take_left' long]
    exact List.takeWhile_eq_self_iff.mpr fun c => isDigit_of_mem_padded
  unfold Takes
  rw [digits_eq taken (padded_ne_nil width n), List.drop_left]

theorem apart_padded (width n : ℕ) (rest : List Char) : Apart isBlank (padded width n ++ rest) := by
  rw [apart_append (padded_ne_nil width n)]
  intro c first
  exact isBlank_of_isDigit (isDigit_of_mem_padded (List.mem_of_mem_head? first))

theorem takes_no_blanks (width n : ℕ) (rest : List Char) :
    Takes blanks [] () (padded width n ++ rest) :=
  takes_blanks (fun _ inside => absurd inside List.not_mem_nil) (apart_padded width n rest)

theorem field_eq (fits : n < 100) (rest : List Char) :
    field low high (padded 2 n ++ rest) =
      if low ≤ n ∧ n ≤ high then .ok (n, rest) else .error .outOfRange := by
  have skipped := takes_no_blanks 2 n rest
  have taken := takes_padded (by decide : 0 < 2) fits rest
  have value := digitsValue_padded 2 n
  unfold field
  rw [← List.nil_append (padded 2 n ++ rest), skipped.bind_eq, taken.bind_eq, value]
  split <;> rfl

theorem takes_field (fits : n < 100) (inside : low ≤ n ∧ n ≤ high) (rest : List Char) :
    Takes (field low high) (padded 2 n) n rest := by
  rw [Takes, field_eq fits, if_pos inside]

theorem takes_year (fits : n < 10000) (rest : List Char) : Takes year (padded 4 n) n rest := by
  have taken := takes_padded (by decide : 0 < 4) fits rest
  have inside : -(yearBound : ℤ) ≤ n ∧ (n : ℤ) < yearBound := by
    have bound : (10000 : ℤ) ≤ yearBound := by decide
    omega
  unfold year
  refine (takes_no_blanks 4 n rest).bind_of_nil ((takes_get _).bind_of_nil ?_)
  split
  case h_1 signed => cases isDigit_of_head_padded signed
  case h_2 signed => cases isDigit_of_head_padded signed
  case h_3 =>
    refine taken.bind_to_nil ?_
    simp only [digitsValue_padded, pure_bind, if_pos inside]
    exact takes_pure _ _

end Fields

variable {s : Stamp}

theorem takes_date (month : 1 ≤ s.month ∧ s.month ≤ 12) (day : 1 ≤ s.day ∧ s.day ≤ 31)
    (rest : List Char) : Takes (date false) s.dateText s.date rest := by
  unfold date
  refine (takes_year s.year_lt _).bind ?_
  refine (takes_separator '-' _).bind ?_
  refine (takes_field s.month_lt month _).bind ?_
  refine (takes_separator '-' _).bind ?_
  refine (takes_field s.day_lt day _).bind_to_nil ?_
  exact takes_pure _ _

/-- A month or a day that no date has is refused as soon as it is read. -/
theorem date_eq_outOfRange
    (outside : ¬((1 ≤ s.month ∧ s.month ≤ 12) ∧ 1 ≤ s.day ∧ s.day ≤ 31)) (rest : List Char) :
    date false (s.dateText ++ rest) = .error .outOfRange := by
  unfold date Stamp.dateText
  simp only [List.append_assoc, List.cons_append]
  rw [(takes_year s.year_lt _).bind_eq, separator_bind]
  by_cases month : 1 ≤ s.month ∧ s.month ≤ 12
  · have day : ¬(1 ≤ s.day ∧ s.day ≤ 31) := fun day => outside ⟨month, day⟩
    rw [(takes_field s.month_lt month _).bind_eq, separator_bind]
    apply bind_of_error
    rw [field_eq s.day_lt, if_neg day]
  · apply bind_of_error
    rw [field_eq s.month_lt, if_neg month]

/-- Nothing goes on that could belong to a fraction. -/
def EndsFraction (rest : List Char) : Prop := Apart (fun c => c == '.' || isDigit c) rest

/-- The first nine digits make the whole nanoseconds. -/
theorem nanos_eq (s : Stamp) :
    digitsValue 0 (s.fraction.take 9) * tenTo (9 - (s.fraction.take 9).length) = s.nanos := by
  unfold Stamp.nanos
  generalize s.fraction = ds
  by_cases few : ds.length ≤ 9
  · have filled : tenTo 9 = tenTo (9 - ds.length) * tenTo ds.length := by
      rw [← tenTo_add, Nat.sub_add_cancel few]
    rw [List.take_of_length_le few, filled, ← Nat.mul_assoc, Nat.mul_div_cancel _ (tenTo_pos _)]
  · have nine : (ds.take 9).length = 9 := List.length_take_of_le (Nat.le_of_not_le few)
    have long : ds.length = (ds.drop 9).length + 9 := by
      rw [List.length_drop, Nat.sub_add_cancel (Nat.le_of_not_le few)]
    have whole : digitsValue 0 ds =
        tenTo (ds.drop 9).length * digitsValue 0 (ds.take 9) + digitsValue 0 (ds.drop 9) := by
      rw [Nat.mul_comm, ← digitsValue_eq_add, ← digitsValue_append, List.take_append_drop]
    have dropped : digitsValue 0 (ds.drop 9) / tenTo (ds.drop 9).length = 0 :=
      Nat.div_eq_of_lt (digitsValue_lt _)
    rw [nine, Nat.sub_self, tenTo_zero, Nat.mul_one, long, tenTo_add,
      Nat.mul_div_mul_right _ _ (tenTo_pos 9), whole, Nat.mul_add_div (tenTo_pos _), dropped,
      Nat.add_zero]

theorem takes_fractionDigits (s : Stamp) (some : s.fraction ≠ []) (ended : EndsFraction rest) :
    Takes fractionDigits s.fraction s.nanos rest := by
  have apart : Apart isDigit rest := fun c first => (Bool.or_eq_false_iff.mp (ended c first)).2
  have stopped : rest.takeWhile isDigit = [] := apart.takeWhile_eq_nil
  have taken : ((s.fraction ++ rest).take 9).takeWhile isDigit = s.fraction.take 9 := by
    rw [← List.take_takeWhile, List.takeWhile_append_of_pos s.isDigit, stopped, List.append_nil]
  have read := digits_eq taken (by simpa using some)
  have left : (s.fraction ++ rest).drop (s.fraction.take 9).length = s.fraction.drop 9 ++ rest := by
    have whole : s.fraction ++ rest = s.fraction.take 9 ++ (s.fraction.drop 9 ++ rest) := by
      rw [← List.append_assoc, List.take_append_drop]
    rw [whole, List.drop_left]
  have dropped : (s.fraction.drop 9 ++ rest).dropWhile isDigit = rest := by
    rw [List.dropWhile_append_of_pos fun c inside => s.isDigit c (List.mem_of_mem_drop inside)]
    exact apart.dropWhile_eq
  rw [left] at read
  unfold fractionDigits
  change Except.bind (digits 9 (s.fraction ++ rest)) _ = _
  rw [read, ← nanos_eq]
  exact congrArg (fun rest => Except.ok (_, rest)) dropped

theorem takes_fraction (s : Stamp) (ended : EndsFraction rest) :
    Takes fraction s.fractionText s.nanos rest := by
  unfold fraction Stamp.fractionText
  by_cases none : s.fraction = []
  · have zero : s.nanos = 0 := by
      rw [Stamp.nanos, none, digitsValue_nil, Nat.zero_mul, Nat.zero_div]
    rw [if_pos none, zero]
    refine (takes_get _).bind_of_nil ?_
    split
    case h_1 point => cases ended '.' (congrArg List.head? point)
    case h_2 => exact takes_pure _ _
  · rw [if_neg none]
    refine (takes_get _).bind_of_nil ?_
    exact takes_fractionDigits s none ended

theorem takes_timeOfDay (s : Stamp) (ended : EndsFraction rest) :
    Takes (timeOfDay false s.date) s.clockText s.read rest := by
  have hour : s.hour ≤ 23 := Nat.le_of_lt_succ s.hour_lt
  have minute : s.minute ≤ 59 := Nat.le_of_lt_succ s.minute_lt
  have second : s.second ≤ 60 := s.second_le
  unfold timeOfDay
  refine (takes_field (by omega) ⟨Nat.zero_le _, hour⟩ _).bind ?_
  refine (takes_separator ':' _).bind ?_
  refine (takes_field (by omega) ⟨Nat.zero_le _, minute⟩ _).bind ?_
  refine (takes_separator ':' _).bind ?_
  refine (takes_field (by omega) ⟨Nat.zero_le _, second⟩ _).bind ?_
  refine (takes_fraction s ended).bind_to_nil ?_
  exact takes_pure _ _

theorem takes_dateTime (s : Stamp) (month : 1 ≤ s.month ∧ s.month ≤ 12)
    (day : 1 ≤ s.day ∧ s.day ≤ 31) (ended : EndsFraction rest) :
    Takes dateTime (s.dateText ++ ' ' :: s.clockText)
      s.read rest := by
  have space : ∀ c ∈ [' '], isBlank c = true := by simp [isBlank]
  have digit : Apart isBlank (s.clockText ++ rest) := by
    rw [Stamp.clockText, List.append_assoc]
    exact apart_padded 2 s.hour _
  unfold dateTime
  refine (takes_date month day _).bind ?_
  refine (takes_blanks space digit).bind ?_
  exact takes_timeOfDay s ended

theorem run_dateTime (month : 1 ≤ s.month ∧ s.month ≤ 12) (day : 1 ≤ s.day ∧ s.day ≤ 31) :
    run dateTime (s.dateText ++ ' ' :: s.clockText) = .ok s.read := by
  have ended : EndsFraction [] := by
    rintro c ⟨⟩
  exact (takes_dateTime s month day ended).run_eq

theorem run_dateTime_eq_error
    (outside : ¬((1 ≤ s.month ∧ s.month ≤ 12) ∧ 1 ≤ s.day ∧ s.day ≤ 31)) :
    run dateTime (s.dateText ++ ' ' :: s.clockText) = .error .outOfRange := by
  have refused : dateTime (s.dateText ++ ' ' :: s.clockText) = .error .outOfRange :=
    bind_of_error (date_eq_outOfRange outside _)
  rw [run, refused]

end Layout

end RebateRelay
