import RebateRelay.Analytics.Execution

/-!
# Result rows

What a finished job delivers: rows, one for each transfer, and figures about the result as a whole.
-/

namespace RebateRelay

/-- One transfer as the analytics service reports it. -/
structure Row where
  address : String
  amount : Float
  amountUsd : Float
  arbPrice : Float
  /-- When the transfer landed, if the query knows. -/
  blockTime : Option Timestamp
  direction : String
  hash : String
  module : String
  token : String
  tokenPrice : Float

/-- Figures about a result. -/
structure ResultMetadata where
  columnNames : List String := []
  resultSetBytes : UInt64 := 0
  totalRowCount : UInt64 := 0
  datapointCount : UInt64 := 0
  pendingTimeMillis : UInt64 := 0
  executionTimeMillis : UInt64 := 0
  deriving DecidableEq, Repr

/-- An answer about a job: its status and the rows so far. -/
structure ExecutionResults where
  status : ExecutionStatus
  rows : List Row
  metadata : ResultMetadata

end RebateRelay
