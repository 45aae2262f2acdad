import RebateRelay.Text.Hex

/-!
# String literals of JSON

A literal is kept as it was written, without its quotes, and its text is worked out when it is
wanted. `encode` writes a text with the fewest escapes; `decode?` knows all escapes and joins
surrogate pairs, and fails on a surrogate that stands alone.
-/

namespace RebateRelay.Json.Literal

open Text

/-- The code unit of four hexadecimal digits. -/
def unit? (a b c d : Char) : Option Nat := do
  return 4096 * (← Hex.value? a) + 256 * (← Hex.value? b) + 16 * (← Hex.value? c) + (← Hex.value? d)

/-- The characters that may follow a backslash, with what they stand for. -/
def shortEscapes : List (Char × Char) := [
  ('"', '"'), ('\\', '\\'), ('/', '/'), ('b', '\x08'), ('f', '\x0c'), ('n', '\n'), ('r', '\r'),
  ('t', '\t')]

/-- Takes the body of a literal up to its closing quote. Controls may not stand in it, and each
backslash has to begin an escape. -/
def scan? : List Char → Option (List Char × List Char)
  | [] => none
  | '"' :: rest => some ([], rest)
  | '\\' :: 'u' :: a :: b :: c :: d :: rest =>
    if (unit? a b c d).isSome then
      (scan? rest).map fun (body, tail) => ('\\' :: 'u' :: a :: b :: c :: d :: body, tail)
    else none
  | '\\' :: e :: rest =>
    if (shortEscapes.lookup e).isSome then
      (scan? rest).map fun (body, tail) => ('\\' :: e :: body, tail)
    else none
  | c :: rest =>
    if c == '\\' || c.toNat < 0x20 then none
    else (scan? rest).map fun (body, tail) => (c :: body, tail)

/-- The first half of a surrogate pair. -/
def isHigh (n : Nat) : Bool := 0xD800 ≤ n && n < 0xDC00

/-- The second half of a surrogate pair. -/
def isLow (n : Nat) : Bool := 0xDC00 ≤ n && n < 0xE000

/-- The text of the body of a literal. -/
def decode? : List Char → Option (List Char)
  | [] => some []
  | '\\' :: 'u' :: a :: b :: c :: d :: '\\' :: 'u' :: e :: f :: g :: h :: rest => do
    let first ← unit? a b c d
    if isHigh first then
      let second ← unit? e f g h
      if isLow second then
        let code := 0x10000 + (first - 0xD800) * 1024 + (second - 0xDC00)
        return Char.ofNat code :: (← decode? rest)
      else none
    else if isLow first then none
    else return Char.ofNat first :: (← decode? ('\\' :: 'u' :: e :: f :: g :: h :: rest))
  | '\\' :: 'u' :: a :: b :: c :: d :: rest => do
    let n ← unit? a b c d
    if isHigh n || isLow n then none else return Char.ofNat n :: (← decode? rest)
  | '\\' :: e :: rest => do
    let c ← shortEscapes.lookup e
    return c :: (← decode? rest)
  | c :: rest => do return c :: (← decode? rest)

/-- How one character stands in a literal. Quotes, backslashes and controls have to be escaped. -/
def encodeChar (c : Char) : List Char :=
  if c == '"' then ['\\', '"']
  else if c == '\\' then ['\\', '\\']
  else if c == '\n' then ['\\', 'n']
  else if c == '\r' then ['\\', 'r']
  else if c == '\t' then ['\\', 't']
  else if c == '\x08' then ['\\', 'b']
  else if c == '\x0c' then ['\\', 'f']
  else if c.toNat < 0x20 then
    ['\\', 'u', '0', '0', Hex.digit (c.toNat / 16), Hex.digit (c.toNat % 16)]
  else [c]

/-- The body of the literal of a text. -/
def encode (text : List Char) : List Char := text.flatMap encodeChar

end RebateRelay.Json.Literal
