import RebateRelay.Analytics.Row
import RebateRelay.Ledger.Record

/-!
# From rows to records

A row that landed after the cutoff becomes an unpaid record of the job that reported it. A row
without a time never does. The order of the rows is kept.
-/

namespace RebateRelay

namespace Row

/-- The unpaid record of a row that landed at a given time. -/
def record (row : Row) (blockTime : Timestamp) (executionId : String) : Record where
  hash := row.hash
  address := row.address
  amount := row.amount
  amountUsd := row.amountUsd
  arbPrice := row.arbPrice
  tokenPrice := row.tokenPrice
  blockTime := blockTime
  direction := row.direction
  module := row.module
  token := row.token
  executionId := executionId
  rebated := false
  nonce := none

/-- The record of a row, if the row landed after the cutoff. -/
def eligible? (cutoff : Timestamp) (executionId : String) (row : Row) : Option Record :=
  match row.blockTime with
  | none => none
  | some t => if cutoff < t then some (row.record t executionId) else none

end Row

/-- The records of the rows that landed after the cutoff. -/
def normalize (rows : List Row) (cutoff : Timestamp) (executionId : String) : List Record :=
  rows.filterMap (Row.eligible? cutoff executionId)

end RebateRelay
