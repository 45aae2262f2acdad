import RebateRelay.Rehearsal.World

/-!
# Rehearsing polls and cycles

A call to the service takes its latency, and a wait takes what the poll asks for. All samples for
the jitter are a half, which leaves a wait as it is. Shutdown is heard of before anything else that
happens at the same moment. The steps of a cycle that only concern the store and the queue take no
time and are not cut short.
-/

namespace RebateRelay.Rehearsal

/-- When something was begun and when it is done. -/
structure Span where
  begun : Instant
  due : Instant
  deriving DecidableEq, Repr

namespace World

/-- The sample that leaves a wait as it is. -/
def evenSample : Float := 0.5

/-- How long a poll waits in a phase. -/
def pollDelay (w : World) (kind : QueryKind) : Poll.Phase → Duration
  | .executing => (w.service.script kind).latency
  | .fetching progress => (w.service.script (w.service.kindOf progress.execution.id)).latency
  | .waiting _ wait => wait
  | .ended _ => .zero

/-- The time that a poll spends in its phase from now on. -/
def pollSpan (w : World) (poll : Poll) : Span :=
  ⟨w.now, w.now.alarm (w.pollDelay poll.kind poll.phase)⟩

/-- What a poll hears of at the end of its phase, or when shutdown has come before. -/
def hear (w : World) (poll : Poll) (begun : Instant) : World × Poll.Input :=
  if w.isStopped then (w, .cancelled)
  else
    match poll.phase with
    | .executing =>
      let (service, reply) := w.service.execute poll.kind
      ({ w with service, calls := w.calls.push (.execute poll.kind begun) }, .executed reply)
    | .fetching progress =>
      let id := progress.execution.id
      let (service, answer) := w.service.fetch id
      ({ w with service, calls := w.calls.push (.fetch id begun) }, .fetched answer evenSample)
    | .waiting .. | .ended _ => (w, .woken)

end World

/-- A poll and the time it spends in its phase. -/
structure Polling where
  poll : Poll
  span : Span

namespace Polling

/-- A poll that begins now. -/
def start (w : World) (kind : QueryKind) : Polling :=
  let poll := Poll.start kind
  ⟨poll, w.pollSpan poll⟩

/-- A poll as a process. -/
def process (policy : BackoffPolicy) : Process Polling where
  ready w s :=
    match s.poll.result? with
    | some _ => none
    | none => some (w.signal.cut s.span.due)
  step w s :=
    let (w, input) := w.hear s.poll s.span.begun
    let (poll, events) := s.poll.step policy w.now input
    (w.report events, ⟨poll, w.pollSpan poll⟩)

end Polling

/-- A cycle and the time its poll spends in its phase. -/
structure Cycling where
  cycle : Cycle
  span : Span

namespace Cycling

/-- A cycle that begins now. -/
def start (w : World) (kind : QueryKind) : Cycling := ⟨.start kind, ⟨w.now, w.now⟩⟩

/-- The time that a cycle spends in its phase from now on. -/
def spanOf (w : World) (cycle : Cycle) : Span :=
  match cycle.phase with
  | .polling _ poll => w.pollSpan poll
  | _ => ⟨w.now, w.now⟩

/-- The store is asked to insert in the phase that a cycle is in. -/
def insertsNow (w : World) (cycle : Cycle) : Bool :=
  match cycle.phase with
  | .flushing => !w.queue.isEmpty
  | .storing .. => true
  | _ => false

/-- What moves a cycle at the end of its phase. -/
def hear (w : World) (s : Cycling) : World × Cycle.Input :=
  match s.cycle.phase with
  | .polling _ poll =>
    let (w, input) := w.hear poll s.span.begun
    (w, .poll input)
  | .parking .. => (w, .park)
  | _ => (w, .store w.outage.insertFault)

/-- A cycle as a process. -/
def process (rules : IngestRules) : Process Cycling where
  ready w s :=
    match s.cycle.phase with
    | .ended _ => none
    | .polling .. => some (w.signal.cut s.span.due)
    | _ => some w.now
  step w s :=
    let asked := if insertsNow w s.cycle then 1 else 0
    let (w, input) := hear w s
    let (cycle, intake, events) := s.cycle.step rules w.now w.intake input
    let w := { (w.withIntake intake).report events with inserts := w.inserts + asked }
    (w, ⟨cycle, spanOf w cycle⟩)

end Cycling

namespace World

/-- Runs a poll to its end. -/
def runPoll (w : World) (policy : BackoffPolicy) (kind : QueryKind) :
    World × Option (Except AnalyticsError CompletedExecution) :=
  let (w, s) := (Polling.process policy).run Process.maxSteps w (.start w kind)
  (w, s.poll.result?)

/-- Runs a cycle to its end. -/
def runCycle (w : World) (rules : IngestRules) (kind : QueryKind) :
    World × Option (Except RelayError IngestSummary) :=
  let (w, s) := (Cycling.process rules).run Process.maxSteps w (.start w kind)
  (w, s.cycle.result?)

end World

end RebateRelay.Rehearsal
