import RebateRelay.Time.Layout

/-!
# Instants with an offset

Two readers for texts such as `2024-02-01T13:45:10.5+01:00`. The strict one follows RFC 3339 to the
letter. The lenient one, for timestamps in stored data, also takes blanks before numbers and
separators, years of other lengths, and the word `UTC`. Both give the instant in universal time.
-/

namespace RebateRelay.Rfc3339

open Layout Number

/-- Takes exactly so many digits. -/
def exactly (count : Nat) : Reader Nat := do
  let taken ← digits count
  if taken.length = count then return digitsValue 0 taken else throw .invalid

/-- Takes a field of exactly two digits between two bounds. -/
def pair (low high : Nat) : Reader Nat := do
  let n ← exactly 2
  if low ≤ n ∧ n ≤ high then return n else throw .outOfRange

/-- Takes the sign of an offset; a true answer means that local time is behind. -/
def sign : Reader Bool := do
  match ← get with
  | [] => throw .tooShort
  | c :: rest =>
    if c = '+' then set rest; return false
    else if c = '-' ∨ c = '\u2212' then set rest; return true
    else throw .invalid

/-- Takes an offset from universal time, in seconds: `Z`, or a sign, hours and minutes with
something between them. -/
def offset (between : Reader Unit) : Reader Int := do
  match ← get with
  | 'Z' :: rest | 'z' :: rest =>
    set rest
    return 0
  | _ =>
    let behind ← sign
    let hours ← exactly 2
    between
    let minutes ← pair 0 59
    if 24 ≤ hours then throw .outOfRange
    let seconds : Int := hours * 3600 + minutes * 60
    return if behind then -seconds else seconds

/-- Takes the character between the date and the time of day. -/
def dateMark : Reader Unit := do
  match ← get with
  | [] => throw .tooShort
  | c :: rest => if c = 'T' ∨ c = 't' ∨ c = ' ' then set rest else throw .invalid

/-- The instant of the fields at an offset. -/
def instant (fields : Fields) (offset : Int) : Reader Timestamp :=
  match fields.timestamp? offset with
  | some t => return t
  | none => throw .outOfRange

/-- Takes an instant in the form of RFC 3339. -/
def strictReader : Reader Timestamp := do
  let y ← exactly 4
  literal '-'
  let m ← pair 1 12
  literal '-'
  let d ← pair 1 31
  dateMark
  let h ← pair 0 23
  literal ':'
  let min ← pair 0 59
  literal ':'
  let s ← pair 0 60
  let f ← fraction
  let east ← offset (literal ':')
  instant ⟨⟨y, m, d⟩, h, min, s, f⟩ east

/-- Reads an instant in the form of RFC 3339. -/
def parseStrict? (text : String) : Option Timestamp :=
  (run strictReader text.toList).toOption

/-- Takes the word `UTC`, in any case, or an offset. -/
def lenientOffset : Reader Int := do
  match ← get with
  | a :: b :: c :: rest =>
    if [a, b, c].map Char.toLower = ['u', 't', 'c'] then
      set rest
      return 0
    else offset (modify (·.dropWhile fun d => d == ':' || Text.isBlank d))
  | _ => offset (modify (·.dropWhile fun d => d == ':' || Text.isBlank d))

/-- Takes an instant in the lenient form. -/
def lenientReader : Reader Timestamp := do
  let d ← date true
  dateMark
  let fields ← timeOfDay true d
  blanks
  let east ← lenientOffset
  blanks
  instant fields east

/-- Reads an instant in the lenient form. -/
def parseLenient? (text : String) : Option Timestamp :=
  (run lenientReader text.toList).toOption

end RebateRelay.Rfc3339
