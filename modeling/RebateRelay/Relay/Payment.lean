import RebateRelay.Chain.Erc20
import RebateRelay.Config.Settings
import RebateRelay.Rebate.Payout
import RebateRelay.Relay.Limiter

/-!
# Preparing a payment

Before a record is paid its payout is worked out, the client of the payout chain is looked up, and
the record's address is read. In a dry run the payout is all. What is submitted in the end is a
transfer of the payout token to the record's address.
-/

namespace RebateRelay

/-- What payments are made by. -/
structure Paymaster (α : Type) where
  rates : RateTable
  clients : Chain.ClientFactory
  limiter : Limiter α
  /-- The chain that rebates are paid on. -/
  chainId : UInt64
  /-- The token that rebates are paid in. -/
  token : Chain.Address
  /-- Payouts are worked out but not made. -/
  dryRun : Bool

/-- The paymaster of given settings, if the token's address can be read. -/
def Paymaster.ofSettings (rates : RateTable) (clients : Chain.Clients) (s : PaymentSettings) :
    Except ChainError (Paymaster Float) := do
  let token ← Chain.parseAddress s.tokenAddress
  return ⟨rates, clients.factory, .ofRate s.ratePerSecond s.burst, s.chainId, token, s.dryRun⟩

/-- A payment that can be submitted. -/
structure Payment where
  record : Record
  payout : Payout
  token : Chain.Erc20
  recipient : Chain.Address

/-- The call that makes a payment, for a transactor to sign. -/
def Payment.build (p : Payment) (transactor : Chain.Transactor) :
    Except ChainError Chain.Transaction :=
  p.token.transfer transactor p.recipient p.payout.amount

/-- What is to be done for a record. -/
inductive Order where
  /-- Nothing but to report the payout. -/
  | simulate (payout : Payout)
  /-- Submit a payment. -/
  | pay (payment : Payment)

/-- Works out what is to be done for a record. -/
def Paymaster.order {α : Type} (m : Paymaster α) (record : Record) : Except RelayError Order := do
  let payout ← (Payout.calculate record m.rates).mapError .rebate
  if m.dryRun then return .simulate payout
  let client ← (m.clients.client m.chainId).mapError .chain
  let recipient ← (Chain.parseAddress record.address).mapError .chain
  return .pay ⟨record, payout, ⟨m.token, client⟩, recipient⟩

end RebateRelay
