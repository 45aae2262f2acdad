import RebateRelay.Chain.Keccak
import RebateRelay.Text.Blank
import RebateRelay.Text.Hex
import RebateRelay.Text.Quoted

/-!
# Account addresses

An address is twenty bytes. It is written as forty hexadecimal digits behind `0x`; the case of the
letters carries a checksum, so that most slips of the hand are noticed. A reader may leave the
checksum out by writing all letters in one case.
-/

namespace RebateRelay.Chain

/-- Twenty bytes that name an account or a contract. -/
structure Address where
  bytes : List UInt8
  length_bytes : bytes.length = 20
  deriving DecidableEq

namespace Address

/-- The address of twenty zero bytes. -/
def zero : Address := ⟨List.replicate 20 0, by decide⟩

instance : Inhabited Address := ⟨zero⟩

/-- The forty lowercase digits. -/
def digits (a : Address) : List Char := Text.Hex.encode a.bytes

/-- Which of the forty digits the checksum raises: those at whose place the hash of the lowercase
digits has a half-byte of at least eight. -/
def raised (lowercase : List Char) : List Bool :=
  let hash := Keccak.hash256 (lowercase.map fun c => UInt8.ofNat c.toNat)
  hash.flatMap fun b => [128 ≤ b.toNat, 8 ≤ b.toNat % 16]

/-- The forty digits with the letters raised that the checksum raises. -/
def checksumDigits (a : Address) : List Char :=
  List.zipWith (fun c up => if up then c.toUpper else c) a.digits (raised a.digits)

/-- The address with its checksum, behind `0x`. -/
def checksummed (a : Address) : String :=
  String.ofList ('0' :: 'x' :: a.checksumDigits)

/-- Why a text is not an address. -/
inductive Fault where
  /-- The text has an odd number of bytes. -/
  | oddDigits
  /-- There are not forty digits, or a checksum is written without `0x`. -/
  | wrongLength
  /-- The first byte that is no digit, and its place behind the marker. -/
  | badDigit (byte : UInt8) (position : Nat)
  /-- The letters are of both cases and do not carry the checksum. -/
  | badChecksum
  deriving DecidableEq

/-- The wording of a fault. A byte is shown as the character of its number. -/
def Fault.message : Fault → String
  | .oddDigits => "odd number of digits"
  | .wrongLength => "invalid string length"
  | .badDigit byte position =>
    "invalid character " ++ Text.quoteSingle (Char.ofNat byte.toNat) ++ " at position " ++
      toString position
  | .badChecksum => "Bad address checksum"

/-- A list of bytes or characters without one marker `0x` or `0X` in front. -/
def stripMarker {α : Type} [BEq α] (zero lower upper : α) : List α → List α
  | a :: b :: rest => if a == zero && (b == lower || b == upper) then rest else a :: b :: rest
  | short => short

/-- The place of the first byte that is no digit. -/
def firstBadDigit (bytes : List UInt8) : Option (UInt8 × Nat) :=
  bytes.zipIdx.find? fun (b, _) => (Text.Hex.value? (Char.ofNat b.toNat)).isNone

/-- Reads the digits of a text without regard to case: an even number of bytes, an optional
marker, forty digits. -/
def decode (text : String) : Except Fault Address :=
  let bytes := text.toUTF8.toList
  let body := stripMarker 0x30 0x78 0x58 bytes
  if bytes.length % 2 = 1 then .error .oddDigits
  else if body.length ≠ 40 then .error .wrongLength
  else match firstBadDigit body with
    | some (byte, position) => .error (.badDigit byte position)
    | none =>
      match Text.Hex.decode? (body.map fun b => Char.ofNat b.toNat) with
      | some raw => if h : raw.length = 20 then .ok ⟨raw, h⟩ else .error .wrongLength
      | none => .error .wrongLength

/-- Letters of both cases stand behind the marker, so the case carries a checksum. -/
def hasMixedCase (text : String) : Bool :=
  let body := stripMarker '0' 'x' 'X' text.toList
  body.any Char.isLower && body.any Char.isUpper

/-- Reads a text whose letters carry the checksum; it has to have the marker `0x`. -/
def decodeChecksummed (text : String) : Except Fault Address :=
  if ['0', 'x'].isPrefixOf text.toList then do
    let a ← decode text
    if a.checksummed = text then .ok a else .error .badChecksum
  else .error .wrongLength

/-- Reads an address, with blanks around it allowed. The checksum is demanded exactly when the
letters are of both cases. -/
def parse (raw : String) : Except Fault Address :=
  let text := Text.trim raw
  if hasMixedCase text then decodeChecksummed text else decode text

end Address

end RebateRelay.Chain
