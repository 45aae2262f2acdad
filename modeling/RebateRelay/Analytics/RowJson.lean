import RebateRelay.Analytics.Row
import RebateRelay.Json.Decode
import RebateRelay.Time.BlockTime

/-!
# Result rows as JSON

Every field of a row and of the figures about a result may be left out. Numbers may be null and are
then zero; a time may be null, or the word `null`, and is then unknown.
-/

namespace RebateRelay

namespace Row

/-- The names of the fields, in order. -/
def fieldNames : List String := [
  "address", "amount", "amount_usd", "arb_price", "block_time", "direction", "hash", "module",
  "token", "token_price"]

/-- Reads a number, null being zero. -/
def numberOfJson? (j : Json) : Option Float := (Json.option? Json.float? j).map (·.getD 0)

/-- Reads a block time that may be unknown. -/
def blockTimeOfJson? (j : Json) : Option (Option Timestamp) := do
  match ← Json.option? Json.string? j with
  | none => return none
  | some text => if text = "null" then return none else (BlockTime.parse text).toOption.map some

/-- Reads a row. -/
def ofJson? (j : Json) : Option Row := do
  let m ← Json.Members.ofJson? fieldNames j
  return {
    address := ← m.withDefault "address" "" Json.string?
    amount := ← m.withDefault "amount" 0 numberOfJson?
    amountUsd := ← m.withDefault "amount_usd" 0 numberOfJson?
    arbPrice := ← m.withDefault "arb_price" 0 numberOfJson?
    blockTime := ← m.withDefault "block_time" none blockTimeOfJson?
    direction := ← m.withDefault "direction" "" Json.string?
    hash := ← m.withDefault "hash" "" Json.string?
    module := ← m.withDefault "module" "" Json.string?
    token := ← m.withDefault "token" "" Json.string?
    tokenPrice := ← m.withDefault "token_price" 0 numberOfJson?
  }

end Row

namespace ResultMetadata

/-- The names of the fields, in order. -/
def fieldNames : List String := [
  "column_names", "result_set_bytes", "total_row_count", "datapoint_count", "pending_time_millis",
  "execution_time_millis"]

/-- Reads the figures about a result. -/
def ofJson? (j : Json) : Option ResultMetadata := do
  let m ← Json.Members.ofJson? fieldNames j
  return {
    columnNames := ← m.withDefault "column_names" [] (Json.list? Json.string?)
    resultSetBytes := ← m.withDefault "result_set_bytes" 0 Json.uint64?
    totalRowCount := ← m.withDefault "total_row_count" 0 Json.uint64?
    datapointCount := ← m.withDefault "datapoint_count" 0 Json.uint64?
    pendingTimeMillis := ← m.withDefault "pending_time_millis" 0 Json.uint64?
    executionTimeMillis := ← m.withDefault "execution_time_millis" 0 Json.uint64?
  }

end ResultMetadata

end RebateRelay
