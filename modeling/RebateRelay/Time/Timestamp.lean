import RebateRelay.Number.Unsigned
import RebateRelay.Time.Calendar

/-!
# Instants

An instant is a number of seconds since the start of 1970 in universal time and the nanoseconds
into that second. A leap second is the second before it carried on: its nanoseconds run from one
thousand million. Instants are ordered by seconds and then by nanoseconds.
-/

namespace RebateRelay

open Number

/-- Seconds since 1970 and nanoseconds counted forward from there. -/
structure Timestamp where
  seconds : Int
  nanos : Nat
  deriving DecidableEq, Repr

namespace Timestamp

instance : Inhabited Timestamp := ⟨⟨0, 0⟩⟩

instance : LT Timestamp :=
  ⟨fun a b => a.seconds < b.seconds ∨ (a.seconds = b.seconds ∧ a.nanos < b.nanos)⟩

instance (a b : Timestamp) : Decidable (a < b) :=
  inferInstanceAs (Decidable (_ ∨ (_ ∧ _)))

theorem lt_def {a b : Timestamp} :
    a < b ↔ a.seconds < b.seconds ∨ (a.seconds = b.seconds ∧ a.nanos < b.nanos) := Iff.rfl

theorem lt_irrefl (a : Timestamp) : ¬a < a := by
  rw [lt_def]
  omega

theorem lt_trans {a b c : Timestamp} (h : a < b) (h' : b < c) : a < c := by
  rw [lt_def] at *
  omega

theorem lt_asymm {a b : Timestamp} (h : a < b) : ¬b < a :=
  fun h' => lt_irrefl a (lt_trans h h')

theorem lt_or_eq_or_gt (a b : Timestamp) : a < b ∨ a = b ∨ b < a := by
  obtain ⟨seconds, nanos⟩ := a
  obtain ⟨seconds', nanos'⟩ := b
  simp only [lt_def, mk.injEq]
  omega

/-- The nanoseconds of a second. -/
def nanosPerSecond : Nat := 1000000000

/-- The seconds of a day. -/
def secondsPerDay : Int := 86400

/-- A number with leading zeros up to a width. -/
def padded (width n : Nat) : List Char :=
  let digits := decimalDigits n
  List.replicate (width - digits.length) '0' ++ digits

/-- A year of four digits at least; outside the years 0 to 9999 it carries a sign. -/
def yearText (year : Int) : List Char :=
  if 0 ≤ year ∧ year ≤ 9999 then padded 4 year.toNat
  else (if year < 0 then '-' else '+') :: padded 4 year.natAbs

/-- A fraction of a second in three, six or nine places, the fewest that show it; nothing for
none. -/
def fractionText (nanos : Nat) : List Char :=
  if nanos = 0 then []
  else if nanos % 1000000 = 0 then '.' :: padded 3 (nanos / 1000000)
  else if nanos % 1000 = 0 then '.' :: padded 6 (nanos / 1000)
  else '.' :: padded 9 nanos

/-- An instant as stored records show it: date, `T`, time of day, fraction and `Z`. The leap second
is the one numbered sixty. -/
def text (t : Timestamp) : String :=
  let day := t.seconds / secondsPerDay
  let date := Date.ofDayNumber day
  let rest := (t.seconds - day * secondsPerDay).toNat
  let leap := nanosPerSecond ≤ t.nanos
  let second := rest % 60 + if leap then 1 else 0
  let nanos := if leap then t.nanos - nanosPerSecond else t.nanos
  String.ofList <|
    yearText date.year ++ '-' :: padded 2 date.month ++ '-' :: padded 2 date.day ++
    'T' :: padded 2 (rest / 3600) ++ ':' :: padded 2 (rest / 60 % 60) ++ ':' :: padded 2 second ++
    fractionText nanos ++ ['Z']

end Timestamp

end RebateRelay
