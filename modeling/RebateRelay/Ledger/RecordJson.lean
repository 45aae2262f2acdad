import RebateRelay.Json.Decode
import RebateRelay.Ledger.Record
import RebateRelay.Time.Rfc3339

/-!
# Records as JSON

A record is an object with all its fields. The time is written in universal time and read with any
offset; the sequence number is null for a record that has none.
-/

namespace RebateRelay.Record

/-- The names of the fields, in order. -/
def fieldNames : List String := [
  "hash", "address", "amount", "amount_usd", "arb_price", "token_price", "block_time", "direction",
  "module", "token", "execution_id", "rebated", "nonce"]

/-- Reads an instant. -/
def timestampOfJson? (j : Json) : Option Timestamp := j.string? >>= Rfc3339.parseLenient?

/-- Reads a record. -/
def ofJson? (j : Json) : Option Record := do
  let m ← Json.Members.ofJson? fieldNames j
  return {
    hash := ← m.required "hash" Json.string?
    address := ← m.required "address" Json.string?
    amount := ← m.required "amount" Json.float?
    amountUsd := ← m.required "amount_usd" Json.float?
    arbPrice := ← m.required "arb_price" Json.float?
    tokenPrice := ← m.required "token_price" Json.float?
    blockTime := ← m.required "block_time" timestampOfJson?
    direction := ← m.required "direction" Json.string?
    module := ← m.required "module" Json.string?
    token := ← m.required "token" Json.string?
    executionId := ← m.required "execution_id" Json.string?
    rebated := ← m.required "rebated" Json.bool?
    nonce := ← m.nullable "nonce" Json.uint64?
  }

/-- The JSON value of a record. -/
def toJson (r : Record) : Json := .ofMembers [
  ("hash", .ofString r.hash),
  ("address", .ofString r.address),
  ("amount", .ofFloat r.amount),
  ("amount_usd", .ofFloat r.amountUsd),
  ("arb_price", .ofFloat r.arbPrice),
  ("token_price", .ofFloat r.tokenPrice),
  ("block_time", .ofString r.blockTime.text),
  ("direction", .ofString r.direction),
  ("module", .ofString r.module),
  ("token", .ofString r.token),
  ("execution_id", .ofString r.executionId),
  ("rebated", .bool r.rebated),
  ("nonce", match r.nonce with
    | some n => .ofNat n.toNat
    | none => .null)]

end RebateRelay.Record
