import RebateRelay.Event
import RebateRelay.Ledger.Store
import RebateRelay.Relay.Payment

/-!
# Batches of payments

A batch reads the unpaid records and goes through them in order. For each it takes a token, works
out the payment, submits it, and marks the record paid with the number that the submitter gave. A
record that fails on the way stays unpaid and the batch goes on; the batch itself ends early only
when the records cannot be read or when shutdown is seen while it is about to take a token or waits
for one.

One batch runs at a time. While it does, others that are due are skipped. Each step of a batch is
made at once, and between two steps the ledger may change: the batch works from the records as they
were when it began.
-/

namespace RebateRelay

/-- The figures of a batch. -/
structure BatchSummary where
  /-- The unpaid records at the beginning. -/
  pending : Nat := 0
  /-- The records that were paid and marked paid. -/
  paid : Nat := 0
  /-- The records that failed and stay unpaid. -/
  failed : Nat := 0
  /-- The records whose payouts were worked out in a dry run. -/
  simulated : Nat := 0
  /-- Another batch was running. -/
  skipped : Bool := false
  deriving DecidableEq, Repr

namespace Batch

/-- What a batch is doing for its current record. -/
inductive Phase where
  /-- It is about to take a token. -/
  | reserving
  /-- It waits for its token. -/
  | waiting (wait : Duration)
  /-- The payment is being submitted. -/
  | submitting (payment : Payment)
  /-- The payment has been submitted and is being entered. -/
  | marking (payment : Payment) (nonce : UInt64)

end Batch

/-- A batch that is running. -/
structure Batch where
  summary : BatchSummary
  /-- The record that is being paid. -/
  record : Record
  /-- The records that follow. -/
  rest : List Record
  phase : Batch.Phase

/-- What batches work on: the ledger, the bucket of tokens, and the batch that is running. -/
structure Till (α : Type) where
  ledger : Ledger
  bucket : Bucket α
  batch : Option Batch := none

namespace Batch

/-- What moves a running batch. -/
inductive Input where
  /-- A token may be taken. -/
  | token
  /-- The wait for the token is over. -/
  | woken
  /-- Shutdown was signalled. -/
  | cancelled
  /-- The submitter has answered. -/
  | submitted (reply : Except ChainError UInt64)
  /-- The payment may be entered; a fault means that the store refuses. -/
  | mark (fault : Option StoreError)

/-- How a batch goes on. -/
inductive Course where
  | running (batch : Batch)
  | over (result : Except RelayError BatchSummary)

/-- Goes on to the next record, or ends after the last one. -/
def next (summary : BatchSummary) : List Record → Course × List Event
  | [] =>
    (.over (.ok summary),
      [.batchComplete summary.pending summary.paid summary.failed summary.simulated])
  | record :: rest => (.running ⟨summary, record, rest, .reserving⟩, [])

/-- Begins a batch over the unpaid records. -/
def begin (dryRun : Bool) (records : List Record) : Course × List Event :=
  let summary : BatchSummary := { pending := records.length }
  match records with
  | [] => (.over (.ok summary), [.nothingUnpaid])
  | record :: rest =>
    (.running ⟨summary, record, rest, .reserving⟩, [.batchStarted records.length dryRun])

/-- The record has failed. -/
def fail (b : Batch) (e : RelayError) : Course × List Event :=
  let (course, events) := next { b.summary with failed := b.summary.failed + 1 } b.rest
  (course, .paymentFailed b.record.hash e.stage e.message :: events)

/-- The token is there: the record's turn has come. -/
def granted {α : Type} (m : Paymaster α) (b : Batch) : Course × List Event :=
  match m.order b.record with
  | .error e => b.fail e
  | .ok (.simulate payout) =>
    let (course, events) := next { b.summary with simulated := b.summary.simulated + 1 } b.rest
    (course, .paymentSimulated b.record.hash b.record.address payout.amount payout.rebateUsd.text
      payout.rebateBps :: events)
  | .ok (.pay payment) => (.running { b with phase := .submitting payment }, [])

/-- The submitter has answered. -/
def submitted (b : Batch) (payment : Payment) :
    Except ChainError UInt64 → Course × List Event
  | .error e => b.fail (.chain e)
  | .ok nonce => (.running { b with phase := .marking payment nonce }, [])

/-- The payment could not be entered. It is out already, and its number is all that leads to it. -/
def unmarked (b : Batch) (payment : Payment) (nonce : UInt64) (e : StoreError) :
    Course × List Event :=
  let (course, events) := b.fail (.store e)
  (course, .paymentNotMarked b.record.hash nonce payment.payout.amount e.message :: events)

/-- The payment has been entered. -/
def marked (b : Batch) (payment : Payment) (nonce : UInt64) : Course × List Event :=
  let (course, events) := next { b.summary with paid := b.summary.paid + 1 } b.rest
  (course, .paymentMade b.record.hash b.record.address nonce payment.payout.amount
    payment.payout.rebateUsd.text :: events)

/-- Shutdown has been seen. -/
def cancel (b : Batch) : Course × List Event :=
  let done := b.summary.paid + b.summary.failed
  (.over (.error .cancelled), [.batchCancelled b.summary.paid (b.summary.pending - done)])

end Batch

namespace Till

variable {α : Type}

/-- What a step leads to: the till, what is reported, and the result of a batch that is over. -/
structure Step (α : Type) where
  till : Till α
  events : List Event := []
  result : Option (Except RelayError BatchSummary) := none

/-- The till after a batch has gone on. -/
def follow (till : Till α) : Batch.Course × List Event → Step α
  | (.running batch, events) => ⟨{ till with batch := some batch }, events, none⟩
  | (.over result, events) => ⟨{ till with batch := none }, events, some result⟩

/-- A batch is due. It is skipped while another is running. -/
def start (m : Paymaster α) (till : Till α) (fault : Option StoreError) : Step α :=
  match till.batch, fault with
  | some _, _ => ⟨till, [.batchSkipped], some (.ok { skipped := true })⟩
  | none, some e => ⟨till, [.readFailed e.message], some (.error (.store e))⟩
  | none, none => till.follow (Batch.begin m.dryRun till.ledger.unpaid)

/-- Takes a token for the current record. -/
def takeToken [Reckoning α] (m : Paymaster α) (now : Instant) (till : Till α) (b : Batch) :
    Step α :=
  let (bucket, wait) := m.limiter.reserve till.bucket now
  let till := { till with bucket }
  if wait = .zero then till.follow (b.granted m)
  else ⟨{ till with batch := some { b with phase := .waiting wait } }, [], none⟩

/-- Enters a payment in the ledger. -/
def enter (till : Till α) (b : Batch) (payment : Payment) (nonce : UInt64)
    (fault : Option StoreError) : Step α :=
  match fault with
  | some e => till.follow (b.unmarked payment nonce e)
  | none =>
    match till.ledger.markPaid b.record.hash nonce with
    | .error e => till.follow (b.unmarked payment nonce e)
    | .ok ledger => { till with ledger }.follow (b.marked payment nonce)

/-- One step of the batch that is running. What it does not wait for changes nothing. -/
def step [Reckoning α] (m : Paymaster α) (now : Instant) (till : Till α) (input : Batch.Input) :
    Step α :=
  match till.batch with
  | none => ⟨till, [], none⟩
  | some b =>
    match b.phase, input with
    | .reserving, .token => till.takeToken m now b
    | .reserving, .cancelled => till.follow b.cancel
    | .waiting _, .woken => till.follow (b.granted m)
    | .waiting _, .cancelled =>
      { till with bucket := m.limiter.refund till.bucket }.follow b.cancel
    | .submitting payment, .submitted reply => till.follow (b.submitted payment reply)
    | .marking payment nonce, .mark fault => till.enter b payment nonce fault
    | _, _ => ⟨till, [], none⟩

end Till

end RebateRelay
