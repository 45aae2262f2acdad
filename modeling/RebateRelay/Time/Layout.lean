import RebateRelay.Number.Power
import RebateRelay.Text.Blank
import RebateRelay.Time.Timestamp

/-!
# Reading dates and times

A layout is read from left to right. Numbers may have blanks in front and take as many digits as
their place allows; each field is checked as soon as it has been read, and the date as a whole at
the end. The readers here are the pieces of which the layouts are put together.
-/

namespace RebateRelay.Layout

open Number

/-- Why a text does not follow a layout. -/
inductive Fault where
  /-- A character does not belong where it stands. -/
  | invalid
  /-- The text ends too early. -/
  | tooShort
  /-- Something is left over. -/
  | tooLong
  /-- A field, or the date, does not exist. -/
  | outOfRange
  deriving DecidableEq, Repr

/-- The wording of a fault. -/
def Fault.message : Fault → String
  | .invalid => "input contains invalid characters"
  | .tooShort => "premature end of input"
  | .tooLong => "trailing input"
  | .outOfRange => "input is out of range"

/-- A reader takes something off the front of a text and leaves the rest. -/
abbrev Reader (α : Type) := StateT (List Char) (Except Fault) α

/-- The fields of a date and a time of day. A second numbered sixty is a leap second. -/
structure Fields where
  date : Date
  hour : Nat
  minute : Nat
  second : Nat
  nanos : Nat
  deriving DecidableEq, Repr

/-- The instant of the fields, if they name a date on the calendar. The local time is ahead of
universal time by the offset. -/
def Fields.timestamp? (f : Fields) (offset : Int) : Option Timestamp :=
  if f.date.Exists then
    let second := min f.second 59
    let leap := if f.second = 60 then Timestamp.nanosPerSecond else 0
    let ofDay : Int := f.hour * 3600 + f.minute * 60 + second
    let seconds := f.date.dayNumber * Timestamp.secondsPerDay + ofDay - offset
    let day := Date.ofDayNumber (seconds / Timestamp.secondsPerDay)
    if Date.firstYear ≤ day.year ∧ day.year ≤ Date.lastYear then some ⟨seconds, f.nanos + leap⟩
    else none
  else none

/-- Skips blanks. -/
def blanks : Reader Unit := modify Text.skipBlank

/-- Takes one given character. -/
def literal (c : Char) : Reader Unit := do
  match ← get with
  | [] => throw .tooShort
  | d :: rest => if d = c then set rest else throw .invalid

/-- Takes at least one and at most so many digits. -/
def digits (most : Nat) : Reader (List Char) := do
  let cs ← get
  let taken := (cs.take most).takeWhile isDigit
  if taken.isEmpty then throw (if cs.isEmpty then .tooShort else .invalid)
  else
    set (cs.drop taken.length)
    return taken

/-- Takes a number of at most two digits between two bounds. -/
def field (low high : Nat) : Reader Nat := do
  blanks
  let n := digitsValue 0 (← digits 2)
  if low ≤ n ∧ n ≤ high then return n else throw .outOfRange

/-- Takes all digits of a year that has a sign. -/
def longYear : Reader Nat := do
  let n := digitsValue 0 (← digits (← get).length)
  if n < UInt64.size / 2 then return n else throw .outOfRange

/-- Years are read up to this bound on both sides of zero. -/
def yearBound : Nat := UInt32.size / 2

/-- Takes a year: four digits at most, or any number of digits behind a sign. -/
def year : Reader Int := do
  blanks
  let n : Int ←
    match ← get with
    | '-' :: rest => do
      set rest
      let n ← longYear
      pure (-(n : Int))
    | '+' :: rest => do
      set rest
      let n ← longYear
      pure (n : Int)
    | _ => do
      let ds ← digits 4
      pure (digitsValue 0 ds : Int)
  if -(yearBound : Int) ≤ n ∧ n < yearBound then return n else throw .outOfRange

/-- Takes the digits of a fraction; the first nine count. -/
def fractionDigits : Reader Nat := do
  let taken ← digits 9
  modify (·.dropWhile isDigit)
  return digitsValue 0 taken * tenTo (9 - taken.length)

/-- Takes a point and a fraction, if there is a point. -/
def fraction : Reader Nat := do
  match ← get with
  | '.' :: rest =>
    set rest
    fractionDigits
  | _ => return 0

/-- Takes a dash, with blanks in front if the layout lets them stand. -/
def separator (spaced : Bool) (c : Char) : Reader Unit := do
  if spaced then blanks
  literal c

/-- Takes a date. -/
def date (spaced : Bool) : Reader Date := do
  let y ← year
  separator spaced '-'
  let m ← field 1 12
  separator spaced '-'
  let d ← field 1 31
  return ⟨y, m, d⟩

/-- Takes a time of day with an optional fraction. -/
def timeOfDay (spaced : Bool) (date : Date) : Reader Fields := do
  let h ← field 0 23
  separator spaced ':'
  let m ← field 0 59
  separator spaced ':'
  let s ← field 0 60
  let f ← fraction
  return ⟨date, h, m, s, f⟩

/-- Reads a whole text. -/
def run {α : Type} (reader : Reader α) (cs : List Char) : Except Fault α :=
  match reader cs with
  | .error fault => .error fault
  | .ok (a, []) => .ok a
  | .ok (_, _ :: _) => .error .tooLong

/-- Reads a date and a time of day with blanks between them. -/
def dateTime : Reader Fields := do
  let d ← date false
  blanks
  timeOfDay false d

end RebateRelay.Layout
