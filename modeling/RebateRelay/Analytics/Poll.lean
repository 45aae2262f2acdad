import RebateRelay.Analytics.Backoff
import RebateRelay.Analytics.Row
import RebateRelay.Event
import RebateRelay.Time.Clock

/-!
# Polling a job

A poll dispatches a query and asks for its result, again and again with growing waits, until an
answer is decisive or the budget is spent. A decisive answer is a final state or a failure that
another attempt cannot mend; every other answer leads to a wait. Shutdown ends a poll at once,
whatever it is doing.

A poll moves by steps. In every phase it waits for one thing: the reply to its dispatch, the answer
to its question, or the end of its wait. `Poll.step` says what follows when that arrives.
-/

namespace RebateRelay

/-- A job that has ended with its result. -/
structure CompletedExecution where
  execution : Execution
  rows : List Row
  metadata : ResultMetadata
  /-- How often the service was asked. -/
  attempts : Nat

namespace Poll

/-- How far a poll has come. -/
structure Progress where
  execution : Execution
  /-- When polling began. -/
  started : Instant
  /-- The wait before jitter that follows the current attempt. -/
  interval : Duration
  /-- The attempts so far, the current one included. -/
  attempts : Nat

/-- What a poll is doing. -/
inductive Phase where
  /-- The query is being dispatched. -/
  | executing
  /-- The service is being asked for the result. -/
  | fetching (progress : Progress)
  /-- The next attempt is some time off. -/
  | waiting (progress : Progress) (wait : Duration)
  /-- The poll is over. -/
  | ended (result : Except AnalyticsError CompletedExecution)

/-- What a poll may hear of. -/
inductive Input where
  /-- The dispatch has been answered. -/
  | executed (reply : Except AnalyticsError String)
  /-- The question has been answered; the sample sets the jitter of a wait that may follow. -/
  | fetched (answer : Except AnalyticsError ExecutionResults) (sample : Float)
  /-- The wait is over. -/
  | woken
  /-- Shutdown was signalled. -/
  | cancelled

/-- Attempts are counted up to here. -/
def maxAttempts : Nat := UInt32.size - 1

namespace Progress

/-- The progress of a job that has just been dispatched, at its first attempt. -/
def first (policy : BackoffPolicy) (id : String) (kind : QueryKind) (now : Instant) : Progress where
  execution := .fresh id kind
  started := now
  interval := policy.first
  attempts := 1

/-- The progress at the next attempt. -/
def next (p : Progress) (policy : BackoffPolicy) : Progress :=
  { p with interval := policy.next p.interval, attempts := min (p.attempts + 1) maxAttempts }

/-- The state of a job is not final. -/
def notReady (p : Progress) : AnalyticsError :=
  .notReady p.execution.id p.execution.state.label

/-- Waits for the next attempt, unless the wait would go beyond the budget. -/
def backOff (p : Progress) (policy : BackoffPolicy) (now : Instant) (sample : Float)
    (reason : AnalyticsError) : Phase × List Event :=
  let elapsed := now.since p.started
  let wait := policy.jitter p.interval sample
  if policy.budget < elapsed.add wait then
    (.ended (.error (.budgetExhausted p.execution.id p.attempts elapsed reason.message)), [])
  else (.waiting p wait, [.backingOff p.execution.id p.attempts wait reason.message])

/-- Takes in an answer about the job. -/
def answered (p : Progress) (policy : BackoffPolicy) (now : Instant) (sample : Float) :
    Except AnalyticsError ExecutionResults → Phase × List Event
  | .error e => if e.isRetryable then p.backOff policy now sample e else (.ended (.error e), [])
  | .ok results =>
    let p := { p with execution := p.execution.observe results.status }
    match results.status.state with
    | .completed =>
      (.ended (.ok ⟨p.execution, results.rows, results.metadata, p.attempts⟩),
        [.executionCompleted p.execution.id p.execution.kind results.rows.length p.attempts])
    | .failed | .expired =>
      (.ended (.error (.executionFailed p.execution.id p.execution.state.label)), [])
    | .submitted | .running => p.backOff policy now sample p.notReady

end Progress

end Poll

/-- A poll of the query of one kind. -/
structure Poll where
  kind : QueryKind
  phase : Poll.Phase

namespace Poll

/-- A poll that is about to dispatch its query. -/
def start (kind : QueryKind) : Poll := ⟨kind, .executing⟩

/-- The result of a poll that is over. -/
def result? (poll : Poll) : Option (Except AnalyticsError CompletedExecution) :=
  match poll.phase with
  | .ended result => some result
  | _ => none

/-- The phase that follows when something is heard of at a moment. What a phase does not wait for
changes nothing. -/
def Phase.step (policy : BackoffPolicy) (kind : QueryKind) (now : Instant) :
    Phase → Input → Phase × List Event
  | .ended result, _ => (.ended result, [])
  | _, .cancelled => (.ended (.error .cancelled), [])
  | .executing, .executed (.error e) => (.ended (.error e), [])
  | .executing, .executed (.ok id) => (.fetching (.first policy id kind now), [])
  | .fetching progress, .fetched answer sample => progress.answered policy now sample answer
  | .waiting progress _, .woken => (.fetching (progress.next policy), [])
  | phase, _ => (phase, [])

/-- The poll after something is heard of at a moment, and what it reports. -/
def step (policy : BackoffPolicy) (now : Instant) (poll : Poll) (input : Input) :
    Poll × List Event :=
  let (phase, events) := poll.phase.step policy poll.kind now input
  (⟨poll.kind, phase⟩, events)

end Poll

end RebateRelay
