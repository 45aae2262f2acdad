import RebateRelay.Time.Timestamp

/-!
# Transfer records

A record is a transfer that earns a rebate, together with what has become of the rebate. The hash
of the transfer is its key. A record starts out unpaid and is marked paid once, with the sequence
number that the submitter gave to the payment.
-/

namespace RebateRelay

/-- A transfer that earns a rebate. -/
structure Transfer where
  /-- The hash of the transfer. -/
  hash : String
  /-- Who receives the rebate. -/
  address : String
  /-- The amount of the token that was moved. -/
  amount : Float
  /-- Its value in dollars. -/
  amountUsd : Float
  /-- The price of the payout token in dollars at the time. -/
  arbPrice : Float
  /-- The price of the token that was moved. -/
  tokenPrice : Float
  /-- When the transfer landed. -/
  blockTime : Timestamp
  /-- The label of the side it went to. -/
  direction : String
  /-- The module that handled it. -/
  module : String
  /-- The symbol of the token. -/
  token : String
  /-- The analytics job that reported it. -/
  executionId : String

/-- A transfer and the state of its rebate. -/
structure Record extends Transfer where
  /-- The rebate has been submitted. -/
  rebated : Bool
  /-- The sequence number of the payment. -/
  nonce : Option UInt64

namespace Record

/-- The rebate is still owed. -/
def isUnpaid (r : Record) : Bool := !r.rebated

/-- The record with its payment entered. -/
def paid (r : Record) (nonce : UInt64) : Record :=
  { r with rebated := true, nonce := some nonce }

/-- Marks an unpaid record paid. A paid record is left alone. -/
def mark? (r : Record) (nonce : UInt64) : Option Record :=
  if r.rebated then none else some (r.paid nonce)

@[simp] theorem hash_paid (r : Record) (nonce : UInt64) : (r.paid nonce).hash = r.hash := rfl

@[simp] theorem isUnpaid_paid (r : Record) (nonce : UInt64) :
    (r.paid nonce).isUnpaid = false := rfl

end Record

end RebateRelay
