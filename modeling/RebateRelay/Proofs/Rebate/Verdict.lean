import RebateRelay.Proofs.Rebate.Monotone

/-!
# When a payout is refused

A record is paid or refused for a reason that can be read off the record, the table and the two
decimals, without following the arithmetic. The reasons are ordered: each one presupposes that those
before it do not apply, so a record has at most one. In the arithmetic there are three of them. The
rebate in dollars has no mantissa when what is due comes within half a unit of the bound; the number
of tokens has none when the price comes to zero or the rounded rebate over it is as large; and the
smallest units have none when they reach the bound itself. No other way to compute or to write the
same numbers makes a difference.
-/

namespace RebateRelay

/-! ## Looking up the rate -/

theorem Direction.parse_eq_ok {text : String} {direction : Direction} :
    Direction.parse text = .ok direction ↔ direction.label = text := by
  constructor
  · intro parsed
    unfold Direction.parse at parsed
    split at parsed
    case h_1 found =>
      cases parsed
      have labelled := List.find?_some (p := fun d : Direction => d.label == text) found
      exact eq_of_beq labelled
    case h_2 => cases parsed
  · rintro rfl
    rw [Direction.parse, ofLabel?_label]

theorem Direction.parse_eq_error {text : String} {e : RebateError} :
    Direction.parse text = .error e ↔
      (∀ direction : Direction, direction.label ≠ text) ∧ e = .unknownDirection text := by
  constructor
  · intro failed
    refine ⟨fun direction label => ?_, ?_⟩
    · rw [Direction.parse_eq_ok.mpr label] at failed
      cases failed
    · unfold Direction.parse at failed
      split at failed <;> cases failed
      rfl
  · rintro ⟨unknown, rfl⟩
    cases parsed : Direction.parse text with
    | ok direction => exact absurd (Direction.parse_eq_ok.mp parsed) (unknown direction)
    | error e =>
        unfold Direction.parse at parsed
        split at parsed <;> cases parsed
        rfl

namespace RateTable

variable {table : RateTable} {chainId : UInt64} {module token : String}

theorem rebateBps_eq_ok {bps : UInt32} : table.rebateBps chainId module token = .ok bps ↔
    ∃ tokens rate, table.module? chainId module = some tokens ∧ tokens[token]? = some rate ∧
      rate.rebate = bps := by
  unfold rebateBps
  cases table.module? chainId module with
  | none => simp
  | some tokens => cases listed : tokens[token]? <;> simp [listed]

theorem rebateBps_eq_error {e : RebateError} : table.rebateBps chainId module token = .error e ↔
    table.module? chainId module = none ∧ e = .moduleMissing chainId module ∨
      ∃ tokens, table.module? chainId module = some tokens ∧ tokens[token]? = none ∧
        e = .tokenMissing chainId module token := by
  unfold rebateBps
  cases table.module? chainId module with
  | none => simp [eq_comm]
  | some tokens =>
      cases listed : tokens[token]? <;>
        simp only [Option.some.injEq, exists_eq_left', listed, reduceCtorEq, Except.error.injEq,
          false_and, false_or, true_and, eq_comm]

end RateTable

/-! ## Results in range -/

namespace Number.Decimal

/-- A decimal in range without a sign, and the number that it shows. -/
structure Shows (z : Decimal) (w : ℚ) : Prop where
  valid : z.Valid
  positive : z.negative = false
  value : z.value = w

variable {x y z : Decimal} {v w : ℚ}

theorem shows_mul? (positive : x.negative = false) (positive' : y.negative = false)
    (product : x.mul? y = some z) :
    z.Shows z.value ∧ RoundsTo (x.value * y.value) z.value := by
  have sign := not_negative_of_mul? product positive positive'
  refine ⟨⟨(isNear_mul? product).valid, sign, rfl⟩, ?_⟩
  rw [value_of_not_negative positive, value_of_not_negative positive', value_of_not_negative sign]
  exact roundsTo_mul? product

theorem mul?_eq_none_iff (positive : x.negative = false) (positive' : y.negative = false) :
    x.mul? y = none ↔ limit ≤ x.value * y.value := by
  rw [value_of_not_negative positive, value_of_not_negative positive', ← not_lt, ← exists_mul?_iff,
    Option.eq_none_iff_forall_ne_some, not_exists]

/-- A product shows what the exact product is rounded to. -/
theorem exists_mul?_shows_iff (positive : x.negative = false) (positive' : y.negative = false) :
    (∃ z, x.mul? y = some z ∧ z.Shows w) ↔ RoundsTo (x.value * y.value) w := by
  constructor
  · rintro ⟨z, product, shown⟩
    obtain ⟨-, rounded⟩ := shows_mul? positive positive' product
    rwa [shown.value] at rounded
  · intro rounded
    cases product : x.mul? y with
    | none =>
        have large := (mul?_eq_none_iff positive positive').mp product
        exact absurd rounded.lt_limit (not_lt.mpr large)
    | some z =>
        obtain ⟨shown, rounded'⟩ := shows_mul? positive positive' product
        rw [rounded'.unique rounded] at shown
        exact ⟨z, rfl, shown⟩

theorem shows_div? (h : x.Shows v) (positive : y.negative = false)
    (quotient : x.div? y = some z) :
    z.Shows z.value ∧ y.value ≠ 0 ∧ RoundsTo (v / y.value) z.value := by
  obtain ⟨valid, positive', rfl⟩ := h
  have sign := not_negative_of_div? quotient positive' positive
  refine ⟨⟨(isNear_div? valid quotient).valid, sign, rfl⟩, ?_⟩
  rw [value_of_not_negative positive, value_of_not_negative positive', value_of_not_negative sign]
  exact ⟨((exists_div?_iff valid).mp ⟨z, quotient⟩).1, roundsTo_div? valid quotient⟩

theorem div?_eq_none_iff (h : x.Shows v) (positive : y.negative = false) :
    x.div? y = none ↔ y.value = 0 ∨ limit ≤ v / y.value := by
  obtain ⟨valid, positive', rfl⟩ := h
  have none_iff : x.div? y = none ↔ ¬∃ z, x.div? y = some z := by
    rw [Option.eq_none_iff_forall_ne_some, not_exists]
  rw [none_iff, exists_div?_iff valid, value_of_not_negative positive,
    value_of_not_negative positive', not_and_or, not_ne_iff, not_lt]

/-- A quotient shows what the exact quotient is rounded to. -/
theorem exists_div?_shows_iff (h : x.Shows v) (positive : y.negative = false) :
    (∃ z, x.div? y = some z ∧ z.Shows w) ↔ y.value ≠ 0 ∧ RoundsTo (v / y.value) w := by
  constructor
  · rintro ⟨z, quotient, shown⟩
    obtain ⟨-, divides, rounded⟩ := shows_div? h positive quotient
    rw [shown.value] at rounded
    exact ⟨divides, rounded⟩
  · rintro ⟨divides, rounded⟩
    cases quotient : x.div? y with
    | none =>
        obtain zero | large := (div?_eq_none_iff h positive).mp quotient
        · exact absurd zero divides
        · exact absurd rounded.lt_limit (not_lt.mpr large)
    | some z =>
        obtain ⟨shown, -, rounded'⟩ := shows_div? h positive quotient
        rw [rounded'.unique rounded] at shown
        exact ⟨z, rfl, shown⟩

/-- A decimal that is moved by some places is in range up to the bound of mantissas itself. -/
theorem mul_tenTo_lt_limit_iff {k : ℕ} (valid : x.Valid) :
    x.magnitude * 10 ^ k < limit ↔ x.magnitude * 10 ^ k < 2 ^ 96 := by
  constructor
  · intro inside
    rw [limit] at inside
    linarith
  · intro inside
    rcases Nat.lt_or_ge k x.scale with left | all
    · -- Some places are left, so the number is no larger than the mantissa.
      refine lt_of_le_of_lt ?_ (cast_lt_limit valid.1)
      rw [magnitude, div_mul_eq_mul_div, div_le_iff₀ (by positivity)]
      gcongr
      norm_num
    · -- No places are left, and the number is a whole one.
      obtain ⟨j, rfl⟩ := Nat.exists_eq_add_of_le all
      have whole : x.magnitude * 10 ^ (x.scale + j) = (x.mantissa * tenTo j : ℕ) := by
        rw [magnitude, pow_add]
        push_cast
        field_simp
        simp
      rw [whole] at inside ⊢
      apply cast_lt_limit
      rw [← cast_mantissaBound] at inside
      exact_mod_cast inside

end Number.Decimal

namespace Payout

open Number Number.Decimal

section Arithmetic

variable {bps : UInt32} {amountUsd price : Decimal}

/-- Which of the steps to the amount has no result in range. -/
inductive OutOfRange (bps : UInt32) (amountUsd price : Decimal) : String → Prop
  | rebateUsd (large : limit ≤ dueUsd bps amountUsd) : OutOfRange bps amountUsd price "rebate usd"
  | tokenAmount {usd : ℚ} (rebate : RoundsTo (dueUsd bps amountUsd) usd)
      (large : price.value = 0 ∨ limit ≤ usd / price.value) :
      OutOfRange bps amountUsd price "token amount"
  | smallestUnit {usd tokens : ℚ} (rebate : RoundsTo (dueUsd bps amountUsd) usd)
      (divides : price.value ≠ 0) (rounded : RoundsTo (usd / price.value) tokens)
      (large : 2 ^ 96 ≤ tokens * 10 ^ 18) :
      OutOfRange bps amountUsd price "smallest unit"

/-- All steps to the amount have a result in range. -/
inductive InRange (bps : UInt32) (amountUsd price : Decimal) : Prop
  | intro {usd tokens : ℚ} (due : dueUsd bps amountUsd < limit)
      (rebate : RoundsTo (dueUsd bps amountUsd) usd) (divides : price.value ≠ 0)
      (quotient : usd / price.value < limit) (rounded : RoundsTo (usd / price.value) tokens)
      (units : tokens * 10 ^ 18 < 2 ^ 96) : InRange bps amountUsd price

/-- A value times its rate is what is due. -/
theorem exists_rate_mul_eq (bps : UInt32) (amountUsd : Decimal) :
    ∃ rate, rate? bps = some rate ∧ rate.negative = false ∧
      amountUsd.value * rate.value = dueUsd bps amountUsd := by
  obtain ⟨rate, found, sign, -⟩ := exists_rate bps
  refine ⟨rate, found, sign, ?_⟩
  rw [value_of_not_negative sign, dueUsd, mul_div_assoc,
    magnitude_div?_tenTo (k := 4) bps.toNat_lt (by decide) found]
  norm_num

/-- The smallest units are in range below the bound of mantissas. -/
theorem mul?_unitsPerToken_eq_none_iff {tokens : Decimal} {v : ℚ} (h : tokens.Shows v) :
    tokens.mul? unitsPerToken = none ↔ 2 ^ 96 ≤ v * 10 ^ 18 := by
  obtain ⟨valid, positive, rfl⟩ := h
  have units : unitsPerToken.value = 10 ^ 18 := by
    rw [value_of_not_negative rfl, unitsPerToken, magnitude_ofNat, cast_tenTo, tokenDecimals]
  rw [mul?_eq_none_iff positive rfl, units, value_of_not_negative positive, ← not_lt,
    mul_tenTo_lt_limit_iff valid, not_lt]

section Steps

variable (owed : amountUsd.negative = false) (positive : price.negative = false)

include owed positive

theorem convert_eq_error {e : RebateError} : convert bps amountUsd price = .error e ↔
    ∃ name, OutOfRange bps amountUsd price name ∧ e = .outOfRange (name ++ " out of range") := by
  obtain ⟨rate, found, sign, due⟩ := exists_rate_mul_eq bps amountUsd
  simp only [convert, found, bind_eq_error, step_eq_error, step_eq_ok]
  constructor
  · rintro (⟨⟨⟩, -⟩ | ⟨_, ⟨⟩, ⟨large, rfl⟩ | ⟨rebateUsd, product, failed⟩⟩)
    · rw [mul?_eq_none_iff owed sign, due] at large
      exact ⟨_, .rebateUsd large, rfl⟩
    obtain ⟨rebate, rounded⟩ := shows_mul? owed sign product
    rw [due] at rounded
    obtain ⟨large, rfl⟩ | ⟨tokens, quotient, failed⟩ := failed
    · exact ⟨_, .tokenAmount rounded ((div?_eq_none_iff rebate positive).mp large), rfl⟩
    obtain ⟨number, divides, rounded'⟩ := shows_div? rebate positive quotient
    obtain ⟨large, rfl⟩ | ⟨units, scaled, ⟨large, -⟩ | ⟨amount, -, shown⟩⟩ := failed
    · rw [mul?_unitsPerToken_eq_none_iff number] at large
      exact ⟨_, .smallestUnit rounded divides rounded' large, rfl⟩
    · rw [if_pos (integerPart_lt_of_mul? scaled)] at large
      cases large
    · cases shown
  · rintro ⟨name, failed, rfl⟩
    refine Or.inr ⟨rate, rfl, ?_⟩
    cases failed with
    | rebateUsd large =>
        rw [← due, ← mul?_eq_none_iff owed sign] at large
        exact Or.inl ⟨large, rfl⟩
    | tokenAmount rounded large =>
        rw [← due, ← exists_mul?_shows_iff owed sign] at rounded
        obtain ⟨rebateUsd, product, rebate⟩ := rounded
        rw [← div?_eq_none_iff rebate positive] at large
        exact Or.inr ⟨rebateUsd, product, Or.inl ⟨large, rfl⟩⟩
    | smallestUnit rounded divides rounded' large =>
        rw [← due, ← exists_mul?_shows_iff owed sign] at rounded
        obtain ⟨rebateUsd, product, rebate⟩ := rounded
        obtain ⟨tokens, quotient, number⟩ :=
          (exists_div?_shows_iff rebate positive).mpr ⟨divides, rounded'⟩
        rw [← mul?_unitsPerToken_eq_none_iff number] at large
        exact Or.inr ⟨rebateUsd, product, Or.inr ⟨tokens, quotient, Or.inl ⟨large, rfl⟩⟩⟩

theorem exists_convert_iff :
    (∃ result, convert bps amountUsd price = .ok result) ↔ InRange bps amountUsd price := by
  obtain ⟨rate, found, sign, due⟩ := exists_rate_mul_eq bps amountUsd
  simp only [convert, found, bind_eq_ok, step_eq_ok]
  constructor
  · rintro ⟨_, _, ⟨⟩, rebateUsd, product, tokens, quotient, units, scaled, -⟩
    obtain ⟨rebate, rounded⟩ := shows_mul? owed sign product
    obtain ⟨number, divides, rounded'⟩ := shows_div? rebate positive quotient
    rw [due] at rounded
    refine ⟨rounded.lt_limit, rounded, divides, rounded'.lt_limit, rounded', ?_⟩
    apply not_le.mp
    rw [← mul?_unitsPerToken_eq_none_iff number, scaled]
    exact Option.some_ne_none units
  · rintro ⟨-, rounded, divides, -, rounded', few⟩
    rw [← due, ← exists_mul?_shows_iff owed sign] at rounded
    obtain ⟨rebateUsd, product, rebate⟩ := rounded
    obtain ⟨tokens, quotient, number⟩ :=
      (exists_div?_shows_iff rebate positive).mpr ⟨divides, rounded'⟩
    rw [← not_le, ← mul?_unitsPerToken_eq_none_iff number] at few
    obtain ⟨units, scaled⟩ := Option.ne_none_iff_exists'.mp few
    exact ⟨_, rate, rfl, rebateUsd, product, tokens, quotient, units, scaled, units.integerPart,
      if_pos (integerPart_lt_of_mul? scaled), rfl⟩

end Steps

end Arithmetic

/-! ## The checks -/

section Checks

variable (record : Record) (rates : RateTable)

/-- The direction of a record is known, and the table has a rate for its module and token there. -/
structure Rated (direction : Direction) (bps : UInt32) : Prop where
  label : direction.label = record.direction
  listed : ∃ tokens rate, rates.module? direction.chainId record.module = some tokens ∧
    tokens[record.token]? = some rate ∧ rate.rebate = bps

/-- The price of a record is a number above zero. -/
structure Priced : Prop where
  finite : record.arbPrice.isFinite = true
  positive : 0 < record.arbPrice

/-- A record passes all checks ahead of the arithmetic, which starts from these numbers. -/
structure Accepted (bps : UInt32) (amountUsd price : Decimal) : Prop where
  rated : ∃ direction, Rated record rates direction bps
  priced : Priced record
  amountUsd : ofFloat? record.amountUsd = some amountUsd
  unsigned : signBit record.amountUsd = false
  price : ofFloat? record.arbPrice = some price

/-- Why a record is refused, in the order of the checks. -/
inductive Refused : RebateError → Prop
  | unknownDirection (unknown : ∀ direction : Direction, direction.label ≠ record.direction) :
      Refused (.unknownDirection record.direction)
  | moduleMissing {direction : Direction} (label : direction.label = record.direction)
      (missing : rates.module? direction.chainId record.module = none) :
      Refused (.moduleMissing direction.chainId record.module)
  | tokenMissing {direction : Direction} {tokens : ModuleRates}
      (label : direction.label = record.direction)
      (found : rates.module? direction.chainId record.module = some tokens)
      (missing : tokens[record.token]? = none) :
      Refused (.tokenMissing direction.chainId record.module record.token)
  | invalidPrice {direction : Direction} {bps : UInt32} (rated : Rated record rates direction bps)
      (unpriced : ¬Priced record) : Refused (.invalidPrice record.arbPrice)
  | amountWithoutDecimal {direction : Direction} {bps : UInt32}
      (rated : Rated record rates direction bps) (priced : Priced record)
      (unrepresentable : ofFloat? record.amountUsd = none) :
      Refused (.outOfRange ("amount_usd " ++ plain record.amountUsd ++ " is not representable"))
  | negativeAmount {direction : Direction} {bps : UInt32} {amountUsd : Decimal}
      (rated : Rated record rates direction bps) (priced : Priced record)
      (converted : ofFloat? record.amountUsd = some amountUsd)
      (signed : signBit record.amountUsd = true) :
      Refused (.outOfRange ("negative amount_usd " ++ plain record.amountUsd))
  | priceWithoutDecimal {direction : Direction} {bps : UInt32} {amountUsd : Decimal}
      (rated : Rated record rates direction bps) (priced : Priced record)
      (converted : ofFloat? record.amountUsd = some amountUsd)
      (unsigned : signBit record.amountUsd = false)
      (unrepresentable : ofFloat? record.arbPrice = none) :
      Refused (.outOfRange ("arb_price " ++ plain record.arbPrice ++ " is not representable"))
  | outOfRange {bps : UInt32} {amountUsd price : Decimal} {name : String}
      (accepted : Accepted record rates bps amountUsd price)
      (step : OutOfRange bps amountUsd price name) :
      Refused (.outOfRange (name ++ " out of range"))

/-- A record passes all checks, and its numbers stay in range. -/
inductive Payable : Prop
  | intro {bps : UInt32} {amountUsd price : Decimal}
      (accepted : Accepted record rates bps amountUsd price)
      (inRange : InRange bps amountUsd price) : Payable

end Checks

section Verdict

variable {record : Record} {rates : RateTable}

theorem not_isPrice_iff : (!isPrice record.arbPrice) = true ↔ ¬Priced record := by
  unfold isPrice
  rw [Bool.not_eq_true', ← Bool.not_eq_true, Bool.and_eq_true, decide_eq_true_iff]
  exact not_congr ⟨fun h => ⟨h.1, h.2⟩, fun h => ⟨h.finite, h.positive⟩⟩

/-- The rate of a record is found for the chain of its direction. -/
theorem rated_iff {direction : Direction} {bps : UInt32} : Rated record rates direction bps ↔
    Direction.parse record.direction = .ok direction ∧
      rates.rebateBps direction.chainId record.module record.token = .ok bps := by
  rw [Direction.parse_eq_ok, RateTable.rebateBps_eq_ok]
  exact ⟨fun h => ⟨h.label, h.listed⟩, fun h => ⟨h.1, h.2⟩⟩

/-- The decimals of an accepted record have no signs. -/
theorem Accepted.not_negative {bps : UInt32} {amountUsd price : Decimal}
    (h : Accepted record rates bps amountUsd price) :
    amountUsd.negative = false ∧ price.negative = false :=
  ⟨(negative_of_ofFloat? h.amountUsd).trans h.unsigned,
    (negative_of_ofFloat? h.price).trans (signBit_of_pos h.priced.positive)⟩

theorem refused_of_calculate {e : RebateError} (failed : calculate record rates = .error e) :
    Refused record rates e := by
  simp only [calculate, bind_eq_error, check_eq_error, decimal_eq_error, decimal_eq_ok,
    not_isPrice_iff, not_not] at failed
  obtain failed | ⟨direction, parsed, failed | ⟨bps, looked, failed⟩⟩ := failed
  · obtain ⟨unknown, rfl⟩ := Direction.parse_eq_error.mp failed
    exact .unknownDirection unknown
  · have label := Direction.parse_eq_ok.mp parsed
    obtain ⟨missing, rfl⟩ | ⟨tokens, found, missing, rfl⟩ := RateTable.rebateBps_eq_error.mp failed
    · exact .moduleMissing label missing
    · exact .tokenMissing label found missing
  have rated := rated_iff.mpr ⟨parsed, looked⟩
  obtain ⟨unpriced, rfl⟩ | ⟨priced, failed⟩ := failed
  · exact .invalidPrice rated unpriced
  obtain ⟨unrepresentable, rfl⟩ | ⟨amountUsd, converted, failed⟩ := failed
  · exact .amountWithoutDecimal rated priced unrepresentable
  rw [negative_of_ofFloat? converted, Bool.not_eq_true] at failed
  obtain ⟨signed, rfl⟩ | ⟨unsigned, failed⟩ := failed
  · exact .negativeAmount rated priced converted signed
  obtain ⟨unrepresentable, rfl⟩ | ⟨price, converted', failed | ⟨_, -, shown⟩⟩ := failed
  · exact .priceWithoutDecimal rated priced converted unsigned unrepresentable
  · have accepted : Accepted record rates bps amountUsd price :=
      ⟨⟨direction, rated⟩, priced, converted, unsigned, converted'⟩
    obtain ⟨owed, positive⟩ := accepted.not_negative
    obtain ⟨name, step, rfl⟩ := (convert_eq_error owed positive).mp failed
    exact .outOfRange accepted step
  · cases shown

theorem calculate_of_refused {e : RebateError} (refused : Refused record rates e) :
    calculate record rates = .error e := by
  simp only [calculate, bind_eq_error, check_eq_error, decimal_eq_error, decimal_eq_ok,
    not_isPrice_iff, not_not]
  cases refused with
  | unknownDirection unknown =>
      exact Or.inl (Direction.parse_eq_error.mpr ⟨unknown, rfl⟩)
  | moduleMissing label missing =>
      refine Or.inr ⟨_, Direction.parse_eq_ok.mpr label, Or.inl ?_⟩
      exact RateTable.rebateBps_eq_error.mpr (Or.inl ⟨missing, rfl⟩)
  | tokenMissing label found missing =>
      refine Or.inr ⟨_, Direction.parse_eq_ok.mpr label, Or.inl ?_⟩
      exact RateTable.rebateBps_eq_error.mpr (Or.inr ⟨_, found, missing, rfl⟩)
  | invalidPrice rated unpriced =>
      obtain ⟨parsed, looked⟩ := rated_iff.mp rated
      exact Or.inr ⟨_, parsed, Or.inr ⟨_, looked, Or.inl ⟨unpriced, rfl⟩⟩⟩
  | amountWithoutDecimal rated priced unrepresentable =>
      obtain ⟨parsed, looked⟩ := rated_iff.mp rated
      refine Or.inr ⟨_, parsed, Or.inr ⟨_, looked, Or.inr ⟨priced, ?_⟩⟩⟩
      exact Or.inl ⟨unrepresentable, rfl⟩
  | negativeAmount rated priced converted signed =>
      obtain ⟨parsed, looked⟩ := rated_iff.mp rated
      refine Or.inr ⟨_, parsed, Or.inr ⟨_, looked, Or.inr ⟨priced, Or.inr ⟨_, converted, ?_⟩⟩⟩⟩
      rw [negative_of_ofFloat? converted]
      exact Or.inl ⟨signed, rfl⟩
  | priceWithoutDecimal rated priced converted unsigned unrepresentable =>
      obtain ⟨parsed, looked⟩ := rated_iff.mp rated
      refine Or.inr ⟨_, parsed, Or.inr ⟨_, looked, Or.inr ⟨priced, Or.inr ⟨_, converted, ?_⟩⟩⟩⟩
      rw [negative_of_ofFloat? converted, Bool.not_eq_true]
      exact Or.inr ⟨unsigned, Or.inl ⟨unrepresentable, rfl⟩⟩
  | outOfRange accepted step =>
      obtain ⟨owed, positive⟩ := accepted.not_negative
      obtain ⟨⟨direction, rated⟩, priced, converted, unsigned, converted'⟩ := accepted
      obtain ⟨parsed, looked⟩ := rated_iff.mp rated
      refine Or.inr ⟨_, parsed, Or.inr ⟨_, looked, Or.inr ⟨priced, Or.inr ⟨_, converted, ?_⟩⟩⟩⟩
      rw [owed, Bool.not_eq_true]
      refine Or.inr ⟨rfl, Or.inr ⟨_, converted', Or.inl ?_⟩⟩
      exact (convert_eq_error owed positive).mpr ⟨_, step, rfl⟩

theorem exists_payout_iff :
    (∃ payout, calculate record rates = .ok payout) ↔ Payable record rates := by
  simp only [calculate, bind_eq_ok, check_eq_ok, decimal_eq_ok, not_isPrice_iff, not_not]
  constructor
  · rintro ⟨payout, direction, parsed, bps, looked, priced, amountUsd, converted, owed, price,
      converted', result, reckoned, -⟩
    rw [negative_of_ofFloat? converted, Bool.not_eq_true] at owed
    have accepted : Accepted record rates bps amountUsd price :=
      ⟨⟨direction, rated_iff.mpr ⟨parsed, looked⟩⟩, priced, converted, owed, converted'⟩
    obtain ⟨owed, positive⟩ := accepted.not_negative
    exact ⟨accepted, (exists_convert_iff owed positive).mp ⟨result, reckoned⟩⟩
  · rintro ⟨accepted, inRange⟩
    obtain ⟨owed, positive⟩ := accepted.not_negative
    obtain ⟨result, reckoned⟩ := (exists_convert_iff owed positive).mpr inRange
    obtain ⟨⟨direction, rated⟩, priced, converted, unsigned, converted'⟩ := accepted
    obtain ⟨parsed, looked⟩ := rated_iff.mp rated
    exact ⟨_, direction, parsed, _, looked, priced, _, converted, Bool.not_eq_true _ ▸ owed, _,
      converted', result, reckoned, rfl⟩

/-- A record is refused for the first reason that applies, with an error that says which, and it is
paid when none does. -/
theorem calculate_verdict (record : Record) (rates : RateTable) :
    (∀ e, calculate record rates = .error e ↔ Refused record rates e) ∧
      ((∃ payout, calculate record rates = .ok payout) ↔ Payable record rates) :=
  ⟨fun _ => ⟨refused_of_calculate, calculate_of_refused⟩, exists_payout_iff⟩

end Verdict

end Payout

end RebateRelay
