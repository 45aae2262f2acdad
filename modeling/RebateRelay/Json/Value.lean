import RebateRelay.Json.Literal
import RebateRelay.Number.FloatText

/-!
# JSON values

A value as it stands in a text: numbers and strings keep their spelling, and the members of an
object keep their order and may repeat a name. Whether a spelling can be read as a number of some
kind is a question for the one who wants the number.
-/

namespace RebateRelay

/-- A JSON value. -/
inductive Json where
  | null
  | bool (value : Bool)
  /-- A number, as it is spelled. -/
  | number (spelling : List Char)
  /-- A string, as it stands between its quotes. -/
  | string (body : List Char)
  | array (items : List Json)
  /-- An object; the names of the members are spelled as strings are. -/
  | object (members : List (List Char × Json))

namespace Json

open Number

/-- The value of a text. -/
def ofString (s : String) : Json := .string (Literal.encode s.toList)

/-- The value of a whole number. -/
def ofNat (n : Nat) : Json := .number (decimalDigits n)

/-- The value of a double. -/
def ofFloat (x : Float) : Json :=
  if x.isFinite then .number (jsonText x).toList else .null

/-- An object with the given names. -/
def ofMembers (members : List (String × Json)) : Json :=
  .object (members.map fun (name, value) => (Literal.encode name.toList, value))

/-- A string between its quotes. -/
def quoted (body : List Char) : List Char := '"' :: (body ++ ['"'])

mutual

/-- The text of a value, without blanks. -/
def render : Json → List Char
  | null => ['n', 'u', 'l', 'l']
  | bool true => ['t', 'r', 'u', 'e']
  | bool false => ['f', 'a', 'l', 's', 'e']
  | number spelling => spelling
  | string body => quoted body
  | array items => '[' :: (renderItems items ++ [']'])
  | object members => '{' :: (renderMembers members ++ ['}'])

/-- The items of an array with commas between them. -/
def renderItems : List Json → List Char
  | [] => []
  | [item] => render item
  | item :: rest => render item ++ ',' :: renderItems rest

/-- The members of an object with commas between them. -/
def renderMembers : List (List Char × Json) → List Char
  | [] => []
  | [(name, value)] => quoted name ++ ':' :: render value
  | (name, value) :: rest => quoted name ++ ':' :: (render value ++ ',' :: renderMembers rest)

end

/-- The text of a value as a string. -/
def text (j : Json) : String := String.ofList j.render

end Json

end RebateRelay
