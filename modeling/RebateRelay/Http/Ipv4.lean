import RebateRelay.Number.Unsigned
import RebateRelay.Text.Hex
import RebateRelay.Text.Split

/-!
# Addresses of four bytes

An address of the internet in its first version has four bytes. It may be written in fewer parts, of
which the last then covers several bytes, and each part in octal or hexadecimal digits; it is shown
as four decimal numbers.
-/

namespace RebateRelay.Http

open Number

/-- An address of four bytes, as one number. -/
structure Ipv4 where
  value : UInt32
  deriving DecidableEq, Repr

namespace Ipv4

/-- The value of digits of a base up to sixteen. -/
def valueIn? (base : Nat) (cs : List Char) : Option Nat :=
  cs.foldlM (fun n c => do
    let d ← Text.Hex.value? c
    if d < base then some (base * n + d) else none) 0

/-- A number of an address: decimal, octal behind a zero, or hexadecimal behind `0x`. -/
def number? : List Char → Option Nat
  | [] => none
  | '0' :: 'x' :: cs | '0' :: 'X' :: cs => valueIn? 16 cs
  | '0' :: c :: cs => valueIn? 8 (c :: cs)
  | cs => valueIn? 10 cs

/-- The parts of a name, without an empty one at the end. -/
def parts (name : List Char) : List (List Char) :=
  let parts := Text.splitOn '.' name
  if parts.getLast? = some [] ∧ 1 < parts.length then parts.dropLast else parts

/-- The last part of a name is a number, so that the name has to be an address. -/
def endsInNumber (name : List Char) : Bool :=
  match (parts name).getLast? with
  | none => false
  | some last => (!last.isEmpty && last.all isDigit) || (number? last).isSome

/-- The weight of the byte at a place. -/
def byteWeight (place : Nat) : Nat := Nat.pow 256 place

/-- Reads the address that a name is. -/
def read? (name : List Char) : Option Ipv4 := do
  let parts := parts name
  if 4 < parts.length then none
  let numbers ← parts.mapM number?
  let last ← numbers.getLast?
  let leading := numbers.dropLast
  if leading.any (255 < ·) || byteWeight (5 - numbers.length) ≤ last then none
  let (n, _) := leading.foldl (fun (n, place) part => (n + part * byteWeight place, place - 1))
    (last, 3)
  some ⟨UInt32.ofNat n⟩

/-- The byte at a place, of which the last is the first. -/
def byte (address : Ipv4) (place : Nat) : Nat := address.value.toNat / byteWeight place % 256

/-- The text of an address. -/
def text (address : Ipv4) : String :=
  ".".intercalate ([3, 2, 1, 0].map fun place => toString (address.byte place))

theorem byte_lt (address : Ipv4) (place : Nat) : address.byte place < 256 :=
  Nat.mod_lt _ (by decide)

end Ipv4

end RebateRelay.Http
