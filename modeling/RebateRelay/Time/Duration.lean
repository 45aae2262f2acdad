import RebateRelay.Number.Decimal

/-!
# Durations

A duration is a whole number of nanoseconds. The longest one has `2 ^ 64 - 1` seconds. Durations
are also reckoned in seconds as doubles, with rounding to the nearest nanosecond on the way back.
-/

namespace RebateRelay

open Number

/-- A length of time in nanoseconds. -/
structure Duration where
  nanos : Nat
  deriving DecidableEq, Repr

namespace Duration

/-- The nanoseconds of a second. -/
def nanosPerSecond : Nat := 1000000000

/-- No time at all. -/
def zero : Duration := ⟨0⟩

/-- The longest duration. -/
def longest : Duration := ⟨UInt64.size * nanosPerSecond - 1⟩

/-- A duration of whole seconds. -/
def ofSeconds (n : Nat) : Duration := ⟨n * nanosPerSecond⟩

/-- A duration of whole milliseconds. -/
def ofMillis (n : Nat) : Duration := ⟨n * 1000000⟩

instance : Inhabited Duration := ⟨zero⟩

instance : LE Duration := ⟨fun a b => a.nanos ≤ b.nanos⟩

instance : LT Duration := ⟨fun a b => a.nanos < b.nanos⟩

instance (a b : Duration) : Decidable (a ≤ b) := inferInstanceAs (Decidable (a.nanos ≤ b.nanos))

instance (a b : Duration) : Decidable (a < b) := inferInstanceAs (Decidable (a.nanos < b.nanos))

/-- The longer of two durations. -/
def max (a b : Duration) : Duration := if a ≤ b then b else a

/-- The shorter of two durations. -/
def min (a b : Duration) : Duration := if a ≤ b then a else b

theorem le_def {a b : Duration} : a ≤ b ↔ a.nanos ≤ b.nanos := Iff.rfl

theorem lt_def {a b : Duration} : a < b ↔ a.nanos < b.nanos := Iff.rfl

theorem nanos_max (a b : Duration) : (a.max b).nanos = Max.max a.nanos b.nanos := by
  unfold max
  split <;> rename_i h <;> rw [le_def] at h <;> omega

theorem nanos_min (a b : Duration) : (a.min b).nanos = Min.min a.nanos b.nanos := by
  unfold min
  split <;> rename_i h <;> rw [le_def] at h <;> omega

theorem le_max_right (a b : Duration) : b ≤ a.max b := by
  rw [le_def, nanos_max]
  exact Nat.le_max_right _ _

/-- The sum, cut off at the longest duration. -/
def add (a b : Duration) : Duration := min ⟨a.nanos + b.nanos⟩ longest

/-- The whole seconds. -/
def wholeSeconds (d : Duration) : Nat := d.nanos / nanosPerSecond

/-- A duration in seconds: the whole seconds and the rest, each as a double, and their sum. -/
def toSeconds (d : Duration) : Float :=
  Float.ofNat (d.nanos / nanosPerSecond) +
    Float.ofNat (d.nanos % nanosPerSecond) / Float.ofNat nanosPerSecond

/-- The duration of so many seconds, to the nearest nanosecond, a half to the even one. A number
below zero, a NaN and a number of `2 ^ 64` or more have none. -/
def ofSeconds? (x : Float) : Option Duration :=
  match Binary64.ofFloat? x with
  | none => none
  | some parts =>
    if parts.negative ∧ parts.significand ≠ 0 then none
    else
      let d := parts.denominator
      if UInt64.size * d ≤ parts.numerator then none
      else some ⟨roundHalfEven (parts.numerator * nanosPerSecond) d⟩

/-- A fraction of so many places as it stands behind a point, without zeros at the end. -/
def fractionText (places n : Nat) : List Char :=
  let digits := decimalDigits n
  let filled := List.replicate (places - digits.length) '0' ++ digits
  let shown := (filled.reverse.dropWhile (· == '0')).reverse
  if shown.isEmpty then [] else '.' :: shown

/-- A duration in the largest unit that it fills, with the places it needs. -/
def text (d : Duration) : String :=
  let n := d.nanos
  let inUnit (size places : Nat) (unit : List Char) : String :=
    String.ofList (decimalDigits (n / size) ++ fractionText places (n % size) ++ unit)
  if nanosPerSecond ≤ n then inUnit nanosPerSecond 9 ['s']
  else if 1000000 ≤ n then inUnit 1000000 6 ['m', 's']
  else if 1000 ≤ n then inUnit 1000 3 ['µ', 's']
  else inUnit 1 0 ['n', 's']

end Duration

end RebateRelay
