import RebateRelay.Json.Reader

/-!
# Values of a given type from JSON

Readers for texts, numbers, lists and structures. A structure is an object, in which unknown names
are passed over and known ones may not repeat, or an array of its fields in order. A field that is
absent can be an error, take a default, or be empty.
-/

namespace RebateRelay.Json

open Number

/-- The text of a string. -/
def string? : Json → Option String
  | .string body => (Literal.decode? body).map String.ofList
  | _ => none

/-- A truth value. -/
def bool? : Json → Option Bool
  | .bool value => some value
  | _ => none

/-- The number of a spelling that has nothing but digits, if it is below a bound. -/
def natOfSpelling? (bound : Nat) (spelling : List Char) : Option Nat :=
  if isNumber spelling && spelling.all isDigit then
    let n := digitsValue 0 spelling
    if n < bound then some n else none
  else none

/-- A whole number of 64 bits. -/
def uint64? : Json → Option UInt64
  | .number spelling => (natOfSpelling? UInt64.size spelling).map UInt64.ofNat
  | _ => none

/-- A whole number of 32 bits. -/
def uint32? : Json → Option UInt32
  | .number spelling => (natOfSpelling? UInt32.size spelling).map UInt32.ofNat
  | _ => none

/-- A double; a number that is too large has none. -/
def float? : Json → Option Float
  | .number spelling => do
    let x := (← readScientific? spelling).toFloat
    if x.isFinite then some x else none
  | _ => none

/-- An optional value, where null stands for none. -/
def option? {α : Type} (read : Json → Option α) : Json → Option (Option α)
  | .null => some none
  | j => (read j).map some

/-- A list of values. -/
def list? {α : Type} (read : Json → Option α) : Json → Option (List α)
  | .array items => items.mapM read
  | _ => none

/-- The label of a choice without content: a string, or an object with the label as its only name
and null as its value. -/
def label? : Json → Option String
  | .string body => (Literal.decode? body).map String.ofList
  | .object [(name, .null)] => (Literal.decode? name).map String.ofList
  | _ => none

/-- The fields of a structure that were found. -/
structure Members where
  /-- The structure was given as an array. -/
  positional : Bool
  entries : List (String × Json)

namespace Members

/-- Adds a member of an object; unknown names are passed over. -/
def add? (names : List String) (entries : List (String × Json)) (member : List Char × Json) :
    Option (List (String × Json)) := do
  let name := String.ofList (← Literal.decode? member.1)
  if names.contains name then
    if (entries.lookup name).isSome then none else some ((name, member.2) :: entries)
  else some entries

/-- The fields with the given names, in order. -/
def ofJson? (names : List String) : Json → Option Members
  | .object members => (members.foldlM (add? names) []).map fun entries => ⟨false, entries⟩
  | .array items => if names.length < items.length then none else some ⟨true, names.zip items⟩
  | _ => none

variable {α : Type}

/-- A field that has to be there. -/
def required (m : Members) (name : String) (read : Json → Option α) : Option α :=
  (m.entries.lookup name).bind read

/-- A field with a default. -/
def withDefault (m : Members) (name : String) (default : α) (read : Json → Option α) : Option α :=
  match m.entries.lookup name with
  | none => some default
  | some j => read j

/-- A field that may be null, and may be left out of an object. -/
def nullable (m : Members) (name : String) (read : Json → Option α) : Option (Option α) :=
  match m.entries.lookup name with
  | none => if m.positional then none else some none
  | some j => option? read j

end Members

/-- The members of an object in order, with names and values read. -/
def members? {κ α : Type} (readName : List Char → Option κ) (read : Json → Option α) :
    Json → Option (List (κ × α))
  | .object members => members.mapM fun (name, value) => do
      return (← readName name, ← read value)
  | _ => none

/-- A name as a text. -/
def textName? (body : List Char) : Option String := (Literal.decode? body).map String.ofList

/-- A name that is a whole number of 64 bits, written plainly. -/
def uint64Name? (body : List Char) : Option UInt64 :=
  (natOfSpelling? UInt64.size body).map UInt64.ofNat

/-- What messages say in place of an account of where a text is not JSON of the wanted shape. -/
def faultText : String := "<json>"

end RebateRelay.Json
