import RebateRelay.Chain.Address
import RebateRelay.Json.Decode

/-!
# Unsigned contract calls

What the submitter signs: a chain, a contract, native value and call data. On the wire a call is an
object with the address in its checksummed form, the value in decimal and the data in hexadecimal.
-/

namespace RebateRelay.Chain

/-- An unsigned contract call. -/
structure Transaction where
  chainId : UInt64
  /-- The contract that is called. -/
  contract : Address
  /-- The native value that goes along. -/
  value : Nat
  /-- The call data. -/
  data : List UInt8
  deriving DecidableEq

/-- The identity that the submitter signs with. -/
structure Transactor where
  chainId : UInt64
  deriving DecidableEq, Repr

namespace Transaction

/-- Bytes in hexadecimal behind `0x`. -/
def hexText (bytes : List UInt8) : String :=
  String.ofList ('0' :: 'x' :: Text.Hex.encode bytes)

/-- The bytes of a hexadecimal text behind `0x`. -/
def bytesOfHexText? (text : String) : Option (List UInt8) :=
  match text.toList with
  | '0' :: 'x' :: digits => Text.Hex.decode? digits
  | _ => none

/-- The wire form of a call. -/
def toJson (tx : Transaction) : Json := .ofMembers [
  ("chain_id", .ofNat tx.chainId.toNat),
  ("to", .ofString tx.contract.checksummed),
  ("value", .ofString (toString tx.value)),
  ("data", .ofString (hexText tx.data))]

/-- A native value has 256 bits. -/
def valueBound : Nat := Number.twoTo 256

/-- Reads the wire form of a call. -/
def ofJson? (j : Json) : Option Transaction := do
  let m ← Json.Members.ofJson? ["chain_id", "to", "value", "data"] j
  let chainId ← m.required "chain_id" Json.uint64?
  let contract ← m.required "to" fun j =>
    j.string?.bind fun text => (Address.parse text).toOption
  let value ← m.required "value" fun j => j.string?.bind fun text =>
    (Number.readUnsigned valueBound text.toList).toOption
  let data ← m.required "data" fun j => j.string?.bind bytesOfHexText?
  return ⟨chainId, contract, value, data⟩

end Transaction

end RebateRelay.Chain
