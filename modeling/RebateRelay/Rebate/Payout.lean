import RebateRelay.Ledger.Record
import RebateRelay.Rebate.Direction
import RebateRelay.Rebate.RateTable

/-!
# Payouts

The rebate of a transfer is its value in dollars times the rate, and it is paid in a token at that
token's price: `amountUsd * bps / 10000 / arbPrice`, in units of `10 ^ (-18)` tokens with the rest
cut off. The two doubles become decimals first and every step is decimal arithmetic, so each step
can run out of range.
-/

namespace RebateRelay

open Number

/-- What is owed for a record. -/
structure Payout where
  /-- The chain that the direction of the record points at. -/
  chainId : UInt64
  /-- The rate in basis points. -/
  rebateBps : UInt32
  /-- The rebate in dollars. -/
  rebateUsd : Decimal
  /-- The rebate in smallest units of the payout token. -/
  amount : Nat
  deriving DecidableEq, Repr

namespace Payout

/-- The decimal places of the payout token. -/
def tokenDecimals : Nat := 18

/-- The basis points of a whole. -/
def bpsPerUnit : Nat := 10000

/-- The smallest units of a payout token. -/
def unitsPerToken : Decimal := .ofNat (tenTo tokenDecimals)

/-- Amounts stay below this bound. -/
def amountBound : Nat := twoTo 128

/-- The result of a step, or the step that has none. -/
def step {α : Type} (name : String) : Option α → Except RebateError α
  | some a => .ok a
  | none => .error (.outOfRange (name ++ " out of range"))

/-- The decimal of an input, or the input that has none. -/
def decimal (name : String) (value : Float) : Except RebateError Decimal :=
  match Decimal.ofFloat? value with
  | some d => .ok d
  | none => .error (.outOfRange (name ++ " " ++ plain value ++ " is not representable"))

/-- The price is a number above zero. -/
def isPrice (price : Float) : Bool := price.isFinite && decide (0 < price)

/-- A rate of basis points as a part of one. -/
def rate? (bps : UInt32) : Option Decimal :=
  (Decimal.ofNat bps.toNat).div? (.ofNat bpsPerUnit)

/-- The rebate in dollars and the amount in smallest units, from the converted inputs. -/
def convert (bps : UInt32) (amountUsd price : Decimal) : Except RebateError (Decimal × Nat) := do
  let rate ← step "rebate rate" (rate? bps)
  let rebateUsd ← step "rebate usd" (amountUsd.mul? rate)
  let tokens ← step "token amount" (rebateUsd.div? price)
  let units ← step "smallest unit" (tokens.mul? unitsPerToken)
  let amount ← step "u128 conversion"
    (if units.integerPart < amountBound then some units.integerPart else none)
  return (rebateUsd, amount)

/-- The payout of a record. The checks run from the direction over the rate and the price to the
amounts, and the first that fails is reported. -/
def calculate (record : Record) (rates : RateTable) : Except RebateError Payout := do
  let direction ← Direction.parse record.direction
  let bps ← rates.rebateBps direction.chainId record.module record.token
  if !isPrice record.arbPrice then throw (.invalidPrice record.arbPrice)
  let amountUsd ← decimal "amount_usd" record.amountUsd
  if amountUsd.negative then
    throw (.outOfRange ("negative amount_usd " ++ plain record.amountUsd))
  let price ← decimal "arb_price" record.arbPrice
  let (rebateUsd, amount) ← convert bps amountUsd price
  return ⟨direction.chainId, bps, rebateUsd, amount⟩

end Payout

end RebateRelay
