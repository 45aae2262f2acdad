import RebateRelay.Analytics.Poll
import RebateRelay.Ingest.Normalize
import RebateRelay.Ingest.Requeue

/-!
# Taking in the rows of a query

A cycle stores the records kept for later, polls the query of its kind, and stores the records of
its rows. If the first step fails the cycle ends there, before a poll is spent. If the last one
fails the new records are parked for the next cycle.

Cycles share the ledger and the queue. Each step of a cycle is made at once, and between two steps
other cycles may make theirs. The store may refuse an insert; it has then changed nothing.
-/

namespace RebateRelay

/-- What all cycles share: the stored records and those kept for later. -/
structure Intake where
  ledger : Ledger := .empty
  queue : List Record := []

/-- How rows are taken in. -/
structure IngestRules where
  backoff : BackoffPolicy
  /-- Only rows after this moment are taken. -/
  cutoff : Timestamp
  /-- The bound on the records kept for later. -/
  capacity : Nat

/-- The figures of a cycle. -/
structure IngestSummary where
  kind : QueryKind
  /-- The job that the rows came from. -/
  executionId : String
  /-- The rows of the job. -/
  fetched : Nat
  /-- The rows after the cutoff. -/
  eligible : Nat
  /-- The records kept for later that were stored first. -/
  retried : Nat
  /-- The records that were new to the store. -/
  inserted : Nat
  deriving DecidableEq, Repr

namespace Cycle

/-- What a cycle is doing. -/
inductive Phase where
  /-- The records kept for later are being stored. -/
  | flushing
  /-- The query is being polled. -/
  | polling (retried : Nat) (poll : Poll)
  /-- The records of the rows are being stored. -/
  | storing (retried : Nat) (completed : CompletedExecution)
  /-- The records could not be stored and are being parked. -/
  | parking (records : List Record) (error : StoreError)
  /-- The cycle is over. -/
  | ended (result : Except RelayError IngestSummary)

/-- What moves a cycle. -/
inductive Input where
  /-- The store answers; a fault means that it refuses the insert. -/
  | store (fault : Option StoreError)
  /-- The poll hears of something. -/
  | poll (input : Poll.Input)
  /-- The queue is free. -/
  | park

/-- Stores the records kept for later, if there are any. -/
def flush (kind : QueryKind) (intake : Intake) (fault : Option StoreError) :
    Phase × Intake × List Event :=
  let pending := intake.queue
  match pending, fault with
  | [], _ => (.polling 0 (.start kind), intake, [])
  | _, some e =>
    (.ended (.error (.store e)), intake, [.requeueFlushFailed pending.length e.message])
  | _, none =>
    let (ledger, inserted) := intake.ledger.insert pending
    (.polling pending.length (.start kind), ⟨ledger, []⟩,
      [.requeueStored pending.length inserted])

/-- The records of the rows of a job. -/
def records (rules : IngestRules) (completed : CompletedExecution) : List Record :=
  normalize completed.rows rules.cutoff completed.execution.id

/-- Stores the records of the rows. -/
def store (rules : IngestRules) (kind : QueryKind) (retried : Nat)
    (completed : CompletedExecution) (intake : Intake) (fault : Option StoreError) :
    Phase × Intake × List Event :=
  let id := completed.execution.id
  let records := records rules completed
  match fault with
  | some e =>
    (.parking records e, intake, [.insertFailed kind id records.length e.message])
  | none =>
    let (ledger, inserted) := intake.ledger.insert records
    (.ended (.ok ⟨kind, id, completed.rows.length, records.length, retried, inserted⟩),
      { intake with ledger },
      [.cycleComplete kind id completed.rows.length records.length inserted retried])

/-- Passes something on to the poll, and goes on when that is over. -/
def poll (rules : IngestRules) (now : Instant) (retried : Nat) (poll : Poll) (input : Poll.Input) :
    Phase × List Event :=
  let (poll, events) := poll.step rules.backoff now input
  match poll.result? with
  | none => (.polling retried poll, events)
  | some (.ok completed) => (.storing retried completed, events)
  | some (.error e) => (.ended (.error (.analytics e)), events)

/-- Parks the records that could not be stored. -/
def park (rules : IngestRules) (intake : Intake) (records : List Record) (error : StoreError) :
    Phase × Intake × List Event :=
  let (queue, events) := Requeue.park rules.capacity intake.queue records
  (.ended (.error (.store error)), { intake with queue }, events)

/-- The phase that follows, and what it does to what the cycles share. What a phase does not wait
for changes nothing. -/
def Phase.step (rules : IngestRules) (kind : QueryKind) (now : Instant) (intake : Intake) :
    Phase → Input → Phase × Intake × List Event
  | .flushing, .store fault => flush kind intake fault
  | .polling retried p, .poll input =>
    let (phase, events) := Cycle.poll rules now retried p input
    (phase, intake, events)
  | .storing retried completed, .store fault =>
    Cycle.store rules kind retried completed intake fault
  | .parking records error, .park => Cycle.park rules intake records error
  | phase, _ => (phase, intake, [])

end Cycle

/-- A cycle for the query of one kind. -/
structure Cycle where
  kind : QueryKind
  phase : Cycle.Phase

namespace Cycle

/-- A cycle at its beginning. -/
def start (kind : QueryKind) : Cycle := ⟨kind, .flushing⟩

/-- The result of a cycle that is over. -/
def result? (cycle : Cycle) : Option (Except RelayError IngestSummary) :=
  match cycle.phase with
  | .ended result => some result
  | _ => none

/-- One step of a cycle. -/
def step (rules : IngestRules) (now : Instant) (intake : Intake) (cycle : Cycle) (input : Input) :
    Cycle × Intake × List Event :=
  let (phase, intake, events) := cycle.phase.step rules cycle.kind now intake input
  (⟨cycle.kind, phase⟩, intake, events)

end Cycle

end RebateRelay
