import RebateRelay.Text.Unprintable
import RebateRelay.Text.Extender

/-!
# Quoted texts

Messages show a text that came from outside in double quotes. Quotes, backslashes and the common
controls have short escapes; a character that would not be seen, or that would alter the one
before it, is written as the hexadecimal number of its code point in braces. The fillers that
Hangul has among its letters are not seen either.
-/

namespace RebateRelay.Text

/-- The hexadecimal escape of a code point, without leading zeros. -/
def codePointEscape (c : Char) : List Char :=
  '\\' :: 'u' :: '{' :: (Nat.toDigits 16 c.toNat ++ ['}'])

/-- The letters of Hangul that hold a place and show nothing. -/
def fillers : Ranges := [(0x115F, 0x1160), (0x3164, 0x3164), (0xFFA0, 0xFFA0)]

/-- A character that would not be seen, or that would alter the one before it. -/
def isElusive (c : Char) : Bool := isExtender c || isUnprintable c || fillers.holds c

/-- How one character stands inside quotes. -/
def quoteChar (c : Char) : List Char :=
  if c == '"' then ['\\', '"']
  else if c == '\\' then ['\\', '\\']
  else if c == '\n' then ['\\', 'n']
  else if c == '\r' then ['\\', 'r']
  else if c == '\t' then ['\\', 't']
  else if c.toNat == 0 then ['\\', '0']
  else if 0x20 ≤ c.toNat && c.toNat < 0x7F then [c]
  else if isElusive c then codePointEscape c
  else [c]

/-- A text in double quotes. -/
def quote (s : String) : String :=
  String.ofList ('"' :: (s.toList.flatMap quoteChar ++ ['"']))

/-- One character in single quotes; there the double quote stands as it is. -/
def quoteSingle (c : Char) : String :=
  let inner := if c == '\'' then ['\\', '\''] else if c == '"' then [c] else quoteChar c
  String.ofList ('\'' :: (inner ++ ['\'']))

end RebateRelay.Text
