import RebateRelay.Number.Shortest
import RebateRelay.Number.Unsigned

/-!
# Doubles in text

Messages write a double with the fewest digits that read back and never with an exponent. Stored
records write it in the form of a JSON number, positional in the middle of the range and with an
exponent outside. Reading takes any decimal and gives the nearest double.
-/

namespace RebateRelay.Number

/-- Digits without an exponent: zeros fill the places between the digits and the point. -/
def positional (d : Digits) : List Char :=
  let text := decimalDigits d.digits
  if 0 ≤ d.exponent then text ++ List.replicate d.exponent.toNat '0'
  else
    let places := (-d.exponent).toNat
    if places < text.length then
      text.take (text.length - places) ++ '.' :: text.drop (text.length - places)
    else '0' :: '.' :: (List.replicate (places - text.length) '0' ++ text)

/-- The sign in front of a number. -/
def signed (negative : Bool) (text : List Char) : List Char :=
  if negative then '-' :: text else text

/-- A double as messages show it. -/
def plain (x : Float) : String :=
  match Binary64.ofFloat? x with
  | none => if x.isNaN then "NaN" else if signBit x then "-inf" else "inf"
  | some parts =>
    String.ofList <| signed parts.negative <|
      if parts.significand = 0 then ['0'] else positional (parts.shortest .up)

/-- Digits with one digit before the point and an exponent with its sign. -/
def scientific (d : Digits) : List Char :=
  let text := decimalDigits d.digits
  let exponent := d.exponent + (text.length : Int) - 1
  let mantissa := match text with
    | [] => []
    | [c] => [c]
    | c :: rest => c :: '.' :: rest
  let sign := if exponent < 0 then '-' else '+'
  mantissa ++ 'e' :: sign :: decimalDigits exponent.natAbs

/-- Digits of a JSON number: positional, with a decimal place at least, from `1e-5` up to `1e16`,
and with an exponent outside. -/
def jsonDigits (d : Digits) : List Char :=
  let place := d.exponent + (digitCount d.digits : Int)
  if -5 < place ∧ place ≤ 16 then
    let text := positional d
    if 0 ≤ d.exponent then text ++ ['.', '0'] else text
  else scientific d

/-- A double as stored records show it. What is not a number has no such form. -/
def jsonText (x : Float) : String :=
  match Binary64.ofFloat? x with
  | none => "null"
  | some parts =>
    String.ofList <| signed parts.negative <|
      if parts.significand = 0 then ['0', '.', '0'] else jsonDigits (parts.shortest .even)

/-- A decimal with a sign, as it was read. -/
structure Scientific where
  negative : Bool
  digits : Nat
  exponent : Int
  deriving DecidableEq, Repr

/-- The nearest double. Above `10 ^ 310` that is infinity and below `10 ^ (-330)` it is zero. -/
def Scientific.toFloat (s : Scientific) : Float :=
  let place := s.exponent + (digitCount s.digits : Int)
  let magnitude : Float :=
    if s.digits = 0 ∨ place < -330 then 0
    else if 310 < place then 1 / 0
    else Float.ofScientific s.digits (s.exponent < 0) s.exponent.natAbs
  if s.negative then -magnitude else magnitude

/-- Splits off a sign. -/
def takeSign : List Char → Bool × List Char
  | '-' :: cs => (true, cs)
  | '+' :: cs => (false, cs)
  | cs => (false, cs)

/-- The exponent behind a mantissa: nothing, or a mark, an optional sign and digits to the end. -/
def readExponent? : List Char → Option Int
  | [] => some 0
  | c :: cs =>
    if c == 'e' || c == 'E' then
      let (negative, digits) := takeSign cs
      if !digits.isEmpty && digits.all isDigit then
        let n : Int := digitsValue 0 digits
        some (if negative then -n else n)
      else none
    else none

/-- A decimal: an optional sign, digits with an optional point among or around them, and an
optional exponent. -/
def readScientific? (cs : List Char) : Option Scientific :=
  let (negative, body) := takeSign cs
  let whole := body.takeWhile isDigit
  let rest := body.dropWhile isDigit
  let (fraction, tail) := match rest with
    | '.' :: more => (more.takeWhile isDigit, more.dropWhile isDigit)
    | _ => ([], rest)
  if whole.isEmpty && fraction.isEmpty then none
  else (readExponent? tail).map fun exponent =>
    ⟨negative, digitsValue 0 (whole ++ fraction), exponent - (fraction.length : Int)⟩

/-- Reads a double: a decimal, or a word for an infinity or for NaN in any case. -/
def readFloat? (s : String) : Option Float :=
  match readScientific? s.toList with
  | some decimal => some decimal.toFloat
  | none =>
    let (negative, body) := takeSign s.toList
    let word := String.ofList (body.map Char.toLower)
    if word = "inf" ∨ word = "infinity" then some (if negative then -(1 / 0) else 1 / 0)
    else if word = "nan" then some (0 / 0)
    else none

end RebateRelay.Number
