import RebateRelay.Json.Value

/-!
# Reading JSON

A text is cut into tokens, and the tokens are put together by a machine that keeps the open arrays
and objects on a stack. The grammar is the strict one: no comments, no trailing commas, no leading
zeros, and nothing but blanks around the one value.
-/

namespace RebateRelay.Json

open Number

/-- The blanks of JSON. -/
def isSpace (c : Char) : Bool := c == ' ' || c == '\t' || c == '\n' || c == '\r'

/-- A piece of a JSON text. -/
inductive Token where
  | openArray
  | closeArray
  | openObject
  | closeObject
  | comma
  | colon
  /-- A string, by its body. -/
  | text (body : List Char)
  /-- A value without parts that is no string. -/
  | atom (value : Json)

/-- The characters that numbers are made of. -/
def isNumberChar (c : Char) : Bool :=
  isDigit c || c == '-' || c == '+' || c == '.' || c == 'e' || c == 'E'

/-- Drops the digits in front, of which there has to be one. -/
def dropDigits? (cs : List Char) : Option (List Char) :=
  match cs with
  | c :: rest => if isDigit c then some (rest.dropWhile isDigit) else none
  | [] => none

/-- Drops the whole part of a number, which has no leading zero unless it is zero. -/
def dropWhole? : List Char → Option (List Char)
  | '0' :: rest => some rest
  | cs => dropDigits? cs

/-- Drops a point and digits, if there is a point. -/
def dropFraction? : List Char → Option (List Char)
  | '.' :: rest => dropDigits? rest
  | cs => some cs

/-- Drops an exponent, if there is a mark. -/
def dropExponent? : List Char → Option (List Char)
  | c :: rest => if c == 'e' || c == 'E' then dropDigits? (takeSign rest).2 else some (c :: rest)
  | [] => some []

/-- The spelling of a number. -/
def isNumber (spelling : List Char) : Bool :=
  let body := match spelling with
    | '-' :: rest => rest
    | cs => cs
  let rest := dropWhole? body >>= dropFraction? >>= dropExponent?
  rest.any List.isEmpty

/-- Takes a token off the front of a text. -/
def nextToken? : List Char → Option (Token × List Char)
  | '[' :: rest => some (.openArray, rest)
  | ']' :: rest => some (.closeArray, rest)
  | '{' :: rest => some (.openObject, rest)
  | '}' :: rest => some (.closeObject, rest)
  | ',' :: rest => some (.comma, rest)
  | ':' :: rest => some (.colon, rest)
  | '"' :: rest => (Literal.scan? rest).map fun (body, tail) => (.text body, tail)
  | 'n' :: 'u' :: 'l' :: 'l' :: rest => some (.atom .null, rest)
  | 't' :: 'r' :: 'u' :: 'e' :: rest => some (.atom (.bool true), rest)
  | 'f' :: 'a' :: 'l' :: 's' :: 'e' :: rest => some (.atom (.bool false), rest)
  | cs =>
    let spelling := cs.takeWhile isNumberChar
    if isNumber spelling then some (.atom (.number spelling), cs.dropWhile isNumberChar)
    else none

/-- Cuts a text into at most so many tokens. -/
def tokensWithin : Nat → List Char → Option (List Token)
  | 0, cs => if (cs.dropWhile isSpace).isEmpty then some [] else none
  | n + 1, cs =>
    let body := cs.dropWhile isSpace
    if body.isEmpty then some []
    else do
      let (token, rest) ← nextToken? body
      return token :: (← tokensWithin n rest)

/-- The tokens of a text, of which there are no more than characters. -/
def tokens? (cs : List Char) : Option (List Token) := tokensWithin cs.length cs

/-- Something that has been opened: an array or an object with what it holds so far, the last
first, or a member of the object below that still lacks its value. -/
inductive Frame where
  | array (items : List Json)
  | object (members : List (List Char × Json))
  | member (name : List Char)

/-- What may come next. -/
inductive Turn where
  /-- A value. -/
  | value
  /-- A value, or the end of the array just opened. -/
  | valueOrEnd
  /-- The name of a member. -/
  | name
  /-- The name of a member, or the end of the object just opened. -/
  | nameOrEnd
  /-- The colon behind a name. -/
  | colon
  /-- A comma, or the end of what is open. -/
  | commaOrEnd
  /-- Nothing: the value is complete. -/
  | done (value : Json)

/-- The open frames, innermost first, and what may come next. -/
structure Reading where
  stack : List Frame
  turn : Turn

namespace Reading

/-- Puts a complete value where it belongs. -/
def deliver? (value : Json) : List Frame → Option Reading
  | [] => some ⟨[], .done value⟩
  | .array items :: below => some ⟨.array (value :: items) :: below, .commaOrEnd⟩
  | .member name :: .object members :: below =>
    some ⟨.object ((name, value) :: members) :: below, .commaOrEnd⟩
  | _ => none

/-- Closes the innermost array. -/
def closeArray? : List Frame → Option Reading
  | .array items :: below => deliver? (.array items.reverse) below
  | _ => none

/-- Closes the innermost object. -/
def closeObject? : List Frame → Option Reading
  | .object members :: below => deliver? (.object members.reverse) below
  | _ => none

/-- Begins a value with a token. -/
def begin? (stack : List Frame) : Token → Option Reading
  | .openArray => some ⟨.array [] :: stack, .valueOrEnd⟩
  | .openObject => some ⟨.object [] :: stack, .nameOrEnd⟩
  | .text body => deliver? (.string body) stack
  | .atom value => deliver? value stack
  | _ => none

/-- Goes on after a comma. -/
def more? : List Frame → Option Reading
  | .array items :: below => some ⟨.array items :: below, .value⟩
  | .object members :: below => some ⟨.object members :: below, .name⟩
  | _ => none

/-- Takes in one token. -/
def step? (r : Reading) (token : Token) : Option Reading :=
  match r.turn, token with
  | .value, token => begin? r.stack token
  | .valueOrEnd, .closeArray => closeArray? r.stack
  | .valueOrEnd, token => begin? r.stack token
  | .nameOrEnd, .closeObject => closeObject? r.stack
  | .nameOrEnd, .text body => some ⟨.member body :: r.stack, .colon⟩
  | .name, .text body => some ⟨.member body :: r.stack, .colon⟩
  | .colon, .colon => some ⟨r.stack, .value⟩
  | .commaOrEnd, .comma => more? r.stack
  | .commaOrEnd, .closeArray => closeArray? r.stack
  | .commaOrEnd, .closeObject => closeObject? r.stack
  | _, _ => none

/-- The start of a text. -/
def start : Reading := ⟨[], .value⟩

/-- The value, if it is complete. -/
def value? (r : Reading) : Option Json :=
  match r.turn with
  | .done value => some value
  | _ => none

end Reading

/-- Reads a text that holds one value. -/
def parse? (s : String) : Option Json := do
  let tokens ← tokens? s.toList
  let reading ← tokens.foldlM Reading.step? .start
  reading.value?

end RebateRelay.Json
