import RebateRelay.Chain.Client
import RebateRelay.Chain.Transaction

/-!
# Token transfers

A transfer of an ERC-20 token is a call of the token's contract: four bytes that select the method,
the recipient in a word of thirty-two bytes, and the amount in another.
-/

namespace RebateRelay.Chain

/-- Reads an address; the error shows the text and the reason. -/
def parseAddress (raw : String) : Except ChainError Address :=
  match Address.parse raw with
  | .ok a => .ok a
  | .error fault => .error (.invalidAddress (raw ++ ": " ++ fault.message))

namespace Erc20

/-- The first four bytes of the hash of `transfer(address,uint256)`. -/
def selector : List UInt8 := [0xA9, 0x05, 0x9C, 0xBB]

/-- A number as so many bytes, high byte first. -/
def bigEndian : Nat → Nat → List UInt8
  | 0, _ => []
  | k + 1, n => bigEndian k (n / 256) ++ [UInt8.ofNat (n % 256)]

/-- The number of a list of bytes, high byte first. -/
def ofBigEndian (bytes : List UInt8) : Nat :=
  bytes.foldl (fun n b => 256 * n + b.toNat) 0

/-- An address in a word of thirty-two bytes. -/
def addressWord (a : Address) : List UInt8 := List.replicate 12 0 ++ a.bytes

/-- The data of the call that transfers an amount. -/
def transferData (recipient : Address) (amount : Nat) : List UInt8 :=
  selector ++ (addressWord recipient ++ bigEndian 32 amount)

/-- The recipient and the amount of a transfer. -/
def readTransferData? (data : List UInt8) : Option (Address × Nat) :=
  let body := data.drop 4
  let recipient := (body.drop 12).take 20
  if data.length = 68 ∧ data.take 4 = selector ∧ body.take 12 = List.replicate 12 0 then
    if h : recipient.length = 20 then some (⟨recipient, h⟩, ofBigEndian (body.drop 32)) else none
  else none

end Erc20

/-- A token on a chain. -/
structure Erc20 where
  address : Address
  client : Client

/-- The call that transfers an amount of the token, to be signed by a transactor of its chain. -/
def Erc20.transfer (token : Erc20) (transactor : Transactor) (recipient : Address)
    (amount : Nat) : Except ChainError Transaction :=
  if transactor.chainId = token.client.chainId then
    .ok ⟨token.client.chainId, token.address, 0, Erc20.transferData recipient amount⟩
  else
    .error (.build ("transactor chain " ++ toString transactor.chainId ++
      " does not match token chain " ++ toString token.client.chainId))

end RebateRelay.Chain
