import RebateRelay.Analytics.QueryKind
import RebateRelay.Error

/-!
# What the relay reports

Everything that is worth a line in the log is an event. An event has a level, a message and named
fields; the message is fixed for each kind of event, and the fields say what it was about.
-/

namespace RebateRelay

/-- How much an event matters. -/
inductive Level where
  | error
  | warn
  | info
  | debug
  deriving DecidableEq, Repr

/-- The word for a level. -/
def Level.label : Level → String
  | error => "ERROR"
  | warn => "WARN"
  | info => "INFO"
  | debug => "DEBUG"

/-- The value of a field. -/
inductive FieldValue where
  | text (value : String)
  | count (value : Nat)
  | truth (value : Bool)
  | real (value : Float)

/-- Something worth a line in the log. -/
inductive Event where
  /-- A job was dispatched on the analytics service. -/
  | queryExecuted (kind : QueryKind) (executionId : String)
  /-- An answer about a job was read. -/
  | resultsFetched (executionId state : String) (rows : Nat)
  /-- A job has ended with its result. -/
  | executionCompleted (executionId : String) (kind : QueryKind) (rows attempts : Nat)
  /-- A job is not done and will be asked about again. -/
  | backingOff (executionId : String) (attempt : Nat) (wait : Duration) (reason : String)
  /-- Records that could not be stored before have been stored. -/
  | requeueStored (retried inserted : Nat)
  /-- Records that could not be stored before could not be stored again. -/
  | requeueFlushFailed (pending : Nat) (error : String)
  /-- New records could not be stored and are kept for later. -/
  | insertFailed (kind : QueryKind) (executionId : String) (records : Nat) (error : String)
  /-- A record kept for later had to make room. -/
  | recordDropped (hash executionId : String) (capacity : Nat)
  /-- The rows of a query have been taken in. -/
  | cycleComplete (kind : QueryKind) (executionId : String)
      (fetched eligible inserted retried : Nat)
  /-- A batch was due while another was running. -/
  | batchSkipped
  /-- The unpaid records could not be read. -/
  | readFailed (error : String)
  /-- There is nothing to pay. -/
  | nothingUnpaid
  /-- A batch begins. -/
  | batchStarted (pending : Nat) (dryRun : Bool)
  /-- A batch was cut short by shutdown. -/
  | batchCancelled (paid remaining : Nat)
  /-- A payment was worked out and not made. -/
  | paymentSimulated (hash address : String) (amount : Nat) (rebateUsd : String) (bps : UInt32)
  /-- A payment was made and could not be entered. -/
  | paymentNotMarked (hash : String) (nonce : UInt64) (amount : Nat) (error : String)
  /-- A payment was made and entered. -/
  | paymentMade (hash address : String) (nonce : UInt64) (amount : Nat) (rebateUsd : String)
  /-- A record could not be paid. -/
  | paymentFailed (hash stage error : String)
  /-- A batch has been through all its records. -/
  | batchComplete (pending paid failed simulated : Nat)
  /-- The relay has been started. -/
  | relayRunning (ingestSeconds relaySeconds : Nat)
  /-- A task has failed and takes the others with it. -/
  | fatalError (stage error : String)
  /-- Another task has failed on the way out. -/
  | furtherError (stage error : String)
  /-- All tasks have ended in order. -/
  | relayStopped
  /-- An intake failed and will be made again at the next tick. -/
  | cycleFailed (kind : QueryKind) (stage error : String)
  /-- A batch failed and will be made again at the next tick. -/
  | batchFailed (stage error : String)
  /-- The submitter has come up. -/
  | submitterStarted (url : String)
  /-- The submitter did not answer a probe as it should. -/
  | submitterUnhealthy (url reason : String)
  /-- The submitter has been let go. -/
  | submitterStopped

namespace Event

/-- How much an event matters. -/
def level : Event → Level
  | readFailed _ | paymentNotMarked .. | fatalError .. => .error
  | requeueFlushFailed .. | insertFailed .. | recordDropped .. | batchSkipped | paymentFailed ..
  | furtherError .. | cycleFailed .. | batchFailed .. | submitterUnhealthy .. => .warn
  | resultsFetched .. | backingOff .. | nothingUnpaid => .debug
  | _ => .info

/-- The message of an event. -/
def message : Event → String
  | queryExecuted .. => "analytics query executed"
  | resultsFetched .. => "fetched execution results"
  | executionCompleted .. => "analytics execution completed"
  | backingOff .. => "execution not ready, backing off"
  | requeueStored .. => "re-queued records stored"
  | requeueFlushFailed .. => "re-queue flush failed"
  | insertFailed .. => "insert failed, re-queueing records"
  | recordDropped .. => "re-queue full, dropping record until next poll"
  | cycleComplete .. => "ingestion cycle complete"
  | batchSkipped => "previous relay batch still running, skipping"
  | readFailed _ => "could not read unrebated records"
  | nothingUnpaid => "no unrebated records"
  | batchStarted .. => "relaying rebates"
  | batchCancelled .. => "relay batch cancelled"
  | paymentSimulated .. => "dry run: would relay rebate"
  | paymentNotMarked .. => "rebate submitted but record not marked paid"
  | paymentMade .. => "rebate relayed"
  | paymentFailed .. => "could not relay rebate"
  | batchComplete .. => "relay batch complete"
  | relayRunning .. => "relayer running"
  | fatalError .. => "fatal error, shutting down"
  | furtherError .. => "further error during shutdown"
  | relayStopped => "relayer stopped"
  | cycleFailed .. => "ingestion cycle failed, retrying next tick"
  | batchFailed .. => "relay batch failed, retrying next tick"
  | submitterStarted _ => "submitter started"
  | submitterUnhealthy .. => "submitter health check failed"
  | submitterStopped => "submitter stopped"

/-- The fields of an event, in order. -/
def fields : Event → List (String × FieldValue)
  | queryExecuted kind id => [("query_kind", .text kind.label), ("execution_id", .text id)]
  | resultsFetched id state rows =>
    [("execution_id", .text id), ("state", .text state), ("rows", .count rows)]
  | executionCompleted id kind rows attempts =>
    [("execution_id", .text id), ("query_kind", .text kind.label), ("rows", .count rows),
      ("attempts", .count attempts)]
  | backingOff id attempt wait reason =>
    [("execution_id", .text id), ("attempt", .count attempt), ("wait_secs", .real wait.toSeconds),
      ("reason", .text reason)]
  | requeueStored retried inserted => [("retried", .count retried), ("inserted", .count inserted)]
  | requeueFlushFailed pending error =>
    [("pending", .count pending), ("stage", .text "insert"), ("error", .text error)]
  | insertFailed kind id records error =>
    [("query_kind", .text kind.label), ("execution_id", .text id), ("records", .count records),
      ("stage", .text "insert"), ("error", .text error)]
  | recordDropped hash id capacity =>
    [("hash", .text hash), ("execution_id", .text id), ("capacity", .count capacity)]
  | cycleComplete kind id fetched eligible inserted retried =>
    [("query_kind", .text kind.label), ("execution_id", .text id), ("fetched", .count fetched),
      ("eligible", .count eligible), ("inserted", .count inserted), ("retried", .count retried)]
  | readFailed error => [("stage", .text "read"), ("error", .text error)]
  | batchStarted pending dryRun => [("pending", .count pending), ("dry_run", .truth dryRun)]
  | batchCancelled paid remaining => [("paid", .count paid), ("remaining", .count remaining)]
  | paymentSimulated hash address amount rebateUsd bps =>
    [("hash", .text hash), ("to", .text address), ("amount", .text (toString amount)),
      ("rebate_usd", .text rebateUsd), ("rebate_bps", .count bps.toNat)]
  | paymentNotMarked hash nonce amount error =>
    [("hash", .text hash), ("nonce", .count nonce.toNat), ("amount", .text (toString amount)),
      ("stage", .text "update"), ("error", .text error)]
  | paymentMade hash address nonce amount rebateUsd =>
    [("hash", .text hash), ("to", .text address), ("nonce", .count nonce.toNat),
      ("amount", .text (toString amount)), ("rebate_usd", .text rebateUsd)]
  | paymentFailed hash stage error =>
    [("hash", .text hash), ("stage", .text stage), ("error", .text error)]
  | batchComplete pending paid failed simulated =>
    [("pending", .count pending), ("paid", .count paid), ("failed", .count failed),
      ("simulated", .count simulated)]
  | relayRunning ingestSeconds relaySeconds =>
    [("ingest_interval_secs", .count ingestSeconds), ("relay_interval_secs", .count relaySeconds)]
  | fatalError stage error | furtherError stage error | batchFailed stage error =>
    [("stage", .text stage), ("error", .text error)]
  | cycleFailed kind stage error =>
    [("query_kind", .text kind.label), ("stage", .text stage), ("error", .text error)]
  | submitterStarted url => [("url", .text url)]
  | submitterUnhealthy url reason => [("url", .text url), ("reason", .text reason)]
  | batchSkipped | nothingUnpaid | relayStopped | submitterStopped => []

end Event

end RebateRelay
