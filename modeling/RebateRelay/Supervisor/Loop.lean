import RebateRelay.Ingest.Cycle
import RebateRelay.Relay.Batch
import RebateRelay.Supervisor.Ticker
import RebateRelay.Supervisor.Watch

/-!
# The two loops

At each tick the intake loop makes a pass, one cycle of each kind side by side, and the relay loop
runs a batch. A loop makes one round at a time. What fails in a round is reported and made again at
the next tick; a round that was cancelled ends the loop, and so does shutdown between two rounds.
Either way the loop returns without a failure.
-/

namespace RebateRelay

/-- What a round leads to: whether the loop goes on, and what is reported. -/
structure Verdict where
  goesOn : Bool
  events : List Event := []

/-- The verdict on the cycles of a pass, in order. After a cancelled one the rest is not looked
at. -/
def passVerdict : List (QueryKind × Except RelayError IngestSummary) → Verdict
  | [] => { goesOn := true }
  | (_, .ok _) :: rest => passVerdict rest
  | (kind, .error e) :: rest =>
    if e.isCancellation then { goesOn := false }
    else
      let verdict := passVerdict rest
      { verdict with events := .cycleFailed kind e.stage e.message :: verdict.events }

/-- The verdict on a batch. -/
def batchVerdict : Except RelayError BatchSummary → Verdict
  | .ok _ => { goesOn := true }
  | .error e =>
    if e.isCancellation then { goesOn := false }
    else { goesOn := true, events := [.batchFailed e.stage e.message] }

/-- What a loop is doing. -/
inductive Loop.Phase where
  /-- It waits for a tick. -/
  | idle
  /-- A round is being made. -/
  | busy
  /-- It has ended. -/
  | ended
  deriving DecidableEq, Repr

/-- A loop and its ticks. -/
structure Loop where
  ticker : Ticker
  phase : Loop.Phase := .idle
  deriving DecidableEq, Repr

namespace Loop

/-- What moves a loop. -/
inductive Input where
  /-- A tick is seen. -/
  | tick (now : Instant)
  /-- Shutdown is seen. -/
  | shutdown
  /-- The round is over. -/
  | finished (verdict : Verdict)

/-- One step of a loop. What it does not wait for changes nothing. -/
def step (l : Loop) : Input → Loop
  | .tick now => if l.phase = .idle then ⟨l.ticker.tick now, .busy⟩ else l
  | .shutdown => if l.phase = .idle then { l with phase := .ended } else l
  | .finished verdict =>
    if l.phase = .busy then { l with phase := if verdict.goesOn then .idle else .ended } else l

/-- How a loop that has ended ends as a task. -/
def taskEnd? (l : Loop) : Option TaskEnd :=
  if l.phase = .ended then some (.returned (.ok ())) else none

/-- The intake loop makes its first pass at once. -/
def intake (period : Duration) (now : Instant) : Loop := ⟨.atOnce period now, .idle⟩

/-- The relay loop runs its first batch after a period. -/
def relay (period : Duration) (now : Instant) : Loop := ⟨.afterPeriod period now, .idle⟩

end Loop

end RebateRelay
