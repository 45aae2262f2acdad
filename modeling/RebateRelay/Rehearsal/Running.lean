import RebateRelay.Rehearsal.Paying
import RebateRelay.Rehearsal.Polling
import RebateRelay.Supervisor.Loop

/-!
# Rehearsing the whole relay

The submitter, the two loops and whoever watches them, side by side in this order, under one
signal. The submitter either stays until shutdown or fails after a while. A task that has ended is
noticed when the others can do no more at that moment.
-/

namespace RebateRelay.Rehearsal

/-- The submitter as a task. -/
inductive Serving where
  /-- It stays until shutdown. -/
  | untilShutdown
  /-- It fails at a moment. -/
  | failing (fails : Instant) (error : ChainError)
  /-- It has ended. -/
  | ended

/-- The intake loop and the cycles of its pass. -/
structure Ingesting where
  loop : Loop
  cycles : Option (Cycling × Cycling) := none

/-- The relay loop and its batch. -/
structure Relaying where
  loop : Loop
  batch : Option Paying := none

/-- The watch and the tasks whose end it has not noticed yet. -/
structure Watching where
  watch : Watch := {}
  ended : List TaskEnd := []

/-- The state of the whole relay. -/
structure Running where
  serving : Serving
  ingesting : Ingesting
  relaying : Relaying
  watching : Watching := {}

/-- How the whole relay is set up. -/
structure RunningRules where
  ingest : IngestRules
  paymaster : Paymaster Float
  ingestPeriod : Duration
  relayPeriod : Duration

namespace Serving

/-- When the submitter ends. -/
def ready (w : World) : Serving → Option Instant
  | .untilShutdown => w.signal.given
  | .failing t _ => some t
  | .ended => none

/-- How the submitter ends. -/
def result : Serving → TaskEnd
  | .failing _ e => .returned (.error (.chain e))
  | _ => .returned (.ok ())

end Serving

namespace Ingesting

/-- The two cycles of a pass, the bridge first. -/
def pass (rules : IngestRules) : Process (Cycling × Cycling) :=
  (Cycling.process rules).beside (Cycling.process rules)

/-- The outcomes of the cycles of a pass that is over. -/
def outcomes (cycles : Cycling × Cycling) :
    List (QueryKind × Except RelayError IngestSummary) :=
  [cycles.1, cycles.2].filterMap fun s => s.cycle.result?.map (s.cycle.kind, ·)

/-- When the loop can go on. -/
def ready (rules : IngestRules) (w : World) (s : Ingesting) : Option Instant :=
  match s.loop.phase, s.cycles with
  | .idle, _ => some (w.signal.cut s.loop.ticker.next)
  | .busy, some cycles => some (((pass rules).ready w cycles).getD w.now)
  | _, _ => none

/-- One step of the loop. -/
def step (rules : IngestRules) (w : World) (s : Ingesting) : World × Ingesting :=
  match s.loop.phase, s.cycles with
  | .idle, _ =>
    if w.isStopped then (w, { s with loop := s.loop.step .shutdown })
    else (w, ⟨s.loop.step (.tick w.now), some (.start w .bridge, .start w .rfq)⟩)
  | .busy, some cycles =>
    if (pass rules).ready w cycles = none then
      let verdict := passVerdict (outcomes cycles)
      (w.report verdict.events, ⟨s.loop.step (.finished verdict), none⟩)
    else
      let (w, cycles) := (pass rules).step w cycles
      (w, { s with cycles := some cycles })
  | _, _ => (w, s)

end Ingesting

namespace Relaying

/-- When the loop can go on. -/
def ready (m : Paymaster Float) (w : World) (s : Relaying) : Option Instant :=
  match s.loop.phase, s.batch with
  | .idle, _ => some (w.signal.cut s.loop.ticker.next)
  | .busy, some batch => some (((Paying.process m).ready w batch).getD w.now)
  | _, _ => none

/-- One step of the loop. -/
def step (m : Paymaster Float) (w : World) (s : Relaying) : World × Relaying :=
  match s.loop.phase, s.batch with
  | .idle, _ =>
    if w.isStopped then (w, { s with loop := s.loop.step .shutdown })
    else (w, ⟨s.loop.step (.tick w.now), some (.due w.now)⟩)
  | .busy, some (.over result _) =>
    let verdict := batchVerdict result
    (w.report verdict.events, ⟨s.loop.step (.finished verdict), none⟩)
  | .busy, some batch =>
    let (w, batch) := (Paying.process m).step w batch
    (w, { s with batch := some batch })
  | _, _ => (w, s)

end Relaying

namespace Running

/-- Puts down the end of a task for the watch, if the task has ended. -/
def noteEnd (s : Running) (ended : Option TaskEnd) : Running :=
  { s with watching := { s.watching with ended := s.watching.ended ++ ended.toList } }

/-- The submitter as a process of its own state. -/
def serve : Process Running where
  ready w s := s.serving.ready w
  step w s := (w, { s with serving := .ended }.noteEnd (some s.serving.result))

/-- The intake loop as a process. -/
def ingest (rules : IngestRules) : Process Running where
  ready w s := s.ingesting.ready rules w
  step w s :=
    let (w, ingesting) := s.ingesting.step rules w
    (w, { s with ingesting }.noteEnd ingesting.loop.taskEnd?)

/-- The relay loop as a process. -/
def relay (m : Paymaster Float) : Process Running where
  ready w s := s.relaying.ready m w
  step w s :=
    let (w, relaying) := s.relaying.step m w
    (w, { s with relaying }.noteEnd relaying.loop.taskEnd?)

/-- The watch as a process. -/
def oversee : Process Running where
  ready w s := if s.watching.ended.isEmpty then none else some w.now
  step w s :=
    match s.watching.ended with
    | [] => (w, s)
    | e :: rest =>
      let step := s.watching.watch.joined e
      let w := w.report step.events
      let w := if step.shutdown then { w with signal := w.signal.give w.now } else w
      (w, { s with watching := ⟨step.watch, rest⟩ })

/-- Processes on one state, those that come first having precedence. -/
def together (processes : List (Process Running)) : Process Running where
  ready w s := processes.foldr (fun p t => Process.earliest (p.ready w s) t) none
  step w s :=
    match processes.find? fun p => Process.hasCome w (p.ready w s) with
    | some p => p.step w s
    | none => (w, s)

/-- The whole relay as a process. -/
def process (rules : RunningRules) : Process Running :=
  together [serve, ingest rules.ingest, relay rules.paymaster, oversee]

/-- The relay at its start. -/
def start (rules : RunningRules) (w : World) (serving : Serving) : Running where
  serving := serving
  ingesting := { loop := .intake rules.ingestPeriod w.now }
  relaying := { loop := .relay rules.relayPeriod w.now }

end Running

namespace World

/-- Runs the whole relay until all its tasks have ended. -/
def runRelay (w : World) (rules : RunningRules) (serving : Serving) :
    World × Except RelayError Unit :=
  let w := w.report [.relayRunning rules.ingestPeriod.wholeSeconds rules.relayPeriod.wholeSeconds]
  let (w, s) := (Running.process rules).run Process.maxSteps w (.start rules w serving)
  (w.report s.watching.watch.farewell, s.watching.watch.result)

end World

end RebateRelay.Rehearsal
