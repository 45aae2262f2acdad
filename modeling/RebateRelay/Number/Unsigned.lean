/-!
# Unsigned integers in text

A number is an optional plus sign and decimal digits, and has to stay below a bound. Reading goes
from left to right and stops at the first character that spoils it, so a number that has grown too
large is reported before a stray character that follows.
-/

namespace RebateRelay.Number

/-- The value of a decimal digit. -/
def digit? (c : Char) : Option Nat :=
  if 0x30 ≤ c.toNat && c.toNat ≤ 0x39 then some (c.toNat - 0x30) else none

/-- The character is one of the ten decimal digits. -/
def isDigit (c : Char) : Bool := (digit? c).isSome

/-- The number that a list of digits spells, on top of what was read before. -/
def digitsValue (start : Nat) (cs : List Char) : Nat :=
  cs.foldl (fun n c => 10 * n + (digit? c).getD 0) start

@[simp] theorem digitsValue_nil (start : Nat) : digitsValue start [] = start := rfl

@[simp] theorem digitsValue_cons (start : Nat) (c : Char) (cs : List Char) :
    digitsValue start (c :: cs) = digitsValue (10 * start + (digit? c).getD 0) cs := rfl

theorem digitsValue_append (start : Nat) (cs ds : List Char) :
    digitsValue start (cs ++ ds) = digitsValue (digitsValue start cs) ds := by
  simp [digitsValue, List.foldl_append]

/-- Why a text is not an unsigned integer below the bound. -/
inductive UnsignedFault where
  /-- There is nothing to read. -/
  | empty
  /-- A character is not a digit. -/
  | badDigit
  /-- The digits read so far already reach the bound. -/
  | tooLarge
  deriving DecidableEq, Repr

/-- The wording of a fault. -/
def UnsignedFault.message : UnsignedFault → String
  | .empty => "cannot parse integer from empty string"
  | .badDigit => "invalid digit found in string"
  | .tooLarge => "number too large to fit in target type"

/-- Reads digits on top of a number, from left to right, staying below the bound. -/
def readDigits (bound : Nat) : Nat → List Char → Except UnsignedFault Nat
  | n, [] => .ok n
  | n, c :: cs =>
    match digit? c with
    | none => .error .badDigit
    | some d => if 10 * n + d < bound then readDigits bound (10 * n + d) cs else .error .tooLarge

/-- Reads an unsigned integer below the bound. -/
def readUnsigned (bound : Nat) : List Char → Except UnsignedFault Nat
  | [] => .error .empty
  | ['+'] => .error .badDigit
  | '+' :: cs => readDigits bound 0 cs
  | cs => readDigits bound 0 cs

/-- Reads a number of 64 bits. -/
def readUInt64 (s : String) : Except UnsignedFault UInt64 :=
  (readUnsigned UInt64.size s.toList).map UInt64.ofNat

/-- Reads a number of 32 bits. -/
def readUInt32 (s : String) : Except UnsignedFault UInt32 :=
  (readUnsigned UInt32.size s.toList).map UInt32.ofNat

/-- The decimal digits of a number. -/
def decimalDigits (n : Nat) : List Char := Nat.toDigits 10 n

end RebateRelay.Number
