import RebateRelay.Ingest.Cycle
import RebateRelay.Relay.Batch
import RebateRelay.Rehearsal.Service
import RebateRelay.Rehearsal.Signer

/-!
# The world of a rehearsal

A rehearsal runs the relay against a scripted service, a scripted submitter, and a store that may
be out, on a clock that moves only when everything waits. The world holds all of these, what the
parts of the relay share, and what has been seen of them.

A process says when it can go on, and makes one step when that moment has come. Two processes side
by side are a process; of steps that can be made at the same moment the left one's come first.
-/

namespace RebateRelay.Rehearsal

/-- Which operations of the store are out. -/
structure Outage where
  inserts : Bool := false
  reads : Bool := false
  updates : Bool := false
  deriving DecidableEq, Repr

namespace Outage

/-- The fault of an operation that is out. -/
def fault (out : Bool) (operation : String) : Option StoreError :=
  if out then some (.corruptRow operation "outage") else none

/-- The fault of an insert. -/
def insertFault (o : Outage) : Option StoreError := fault o.inserts "insert"

/-- The fault of a read. -/
def readFault (o : Outage) : Option StoreError := fault o.reads "read"

/-- The fault of an update. -/
def updateFault (o : Outage) : Option StoreError := fault o.updates "update"

end Outage

/-- What an outage turns into; what is left open stays as it is. -/
structure OutageChange where
  inserts : Option Bool := none
  reads : Option Bool := none
  updates : Option Bool := none
  deriving DecidableEq, Repr

/-- The outage after a change. -/
def OutageChange.apply (c : OutageChange) (o : Outage) : Outage where
  inserts := c.inserts.getD o.inserts
  reads := c.reads.getD o.reads
  updates := c.updates.getD o.updates

/-- The world. -/
structure World where
  now : Instant := .zero
  signal : Signal := .never
  service : Service := {}
  signer : Signer := {}
  outage : Outage := {}
  /-- Changes of the outage that are to come, the earliest first. -/
  changes : List (Instant × OutageChange) := []
  ledger : Ledger := .empty
  queue : List Record := []
  bucket : Bucket Float := ⟨0, .zero⟩
  batch : Option Batch := none
  calls : Array Call := #[]
  sent : Array Sent := #[]
  log : Array Event := #[]
  /-- How often the store was asked to insert. -/
  inserts : Nat := 0

namespace World

/-- Writes events to the log. -/
def report (w : World) (events : List Event) : World := { w with log := w.log.appendList events }

/-- What the cycles share. -/
def intake (w : World) : Intake := ⟨w.ledger, w.queue⟩

/-- What the batches share. -/
def till (w : World) : Till Float := ⟨w.ledger, w.bucket, w.batch⟩

/-- Takes over what a cycle has done. -/
def withIntake (w : World) (intake : Intake) : World :=
  { w with ledger := intake.ledger, queue := intake.queue }

/-- Takes over what a batch has done. -/
def withTill (w : World) (till : Till Float) : World :=
  { w with ledger := till.ledger, bucket := till.bucket, batch := till.batch }

/-- Moves the clock to a moment; it never runs back. Changes of the outage that are due by then have
happened. -/
def advance (w : World) (t : Instant) : World :=
  let now := t.later w.now
  let outage := (w.changes.takeWhile fun c => c.1 ≤ now).foldl (fun o c => c.2.apply o) w.outage
  { w with now, outage, changes := w.changes.dropWhile fun c => c.1 ≤ now }

/-- Shutdown has been signalled. -/
def isStopped (w : World) : Bool := w.signal.isGiven w.now

end World

/-- A process: when it can go on, if it is not over, and what its next step does then. -/
structure Process (σ : Type) where
  ready : World → σ → Option Instant
  step : World → σ → World × σ

namespace Process

variable {σ τ : Type}

/-- The earlier of two moments that may not come. -/
def earliest : Option Instant → Option Instant → Option Instant
  | some a, some b => some (a.earlier b)
  | some a, none => some a
  | none, b => b

/-- A moment has come. -/
def hasCome (w : World) : Option Instant → Bool
  | some t => decide (t ≤ w.now)
  | none => false

/-- Two processes side by side. -/
def beside (p : Process σ) (q : Process τ) : Process (σ × τ) where
  ready w s := earliest (p.ready w s.1) (q.ready w s.2)
  step w s :=
    if hasCome w (p.ready w s.1) then
      let (w, s₁) := p.step w s.1
      (w, s₁, s.2)
    else
      let (w, s₂) := q.step w s.2
      (w, s.1, s₂)

/-- Runs a process to its end, with a bound on the number of steps. -/
def run (p : Process σ) : Nat → World → σ → World × σ
  | 0, w, s => (w, s)
  | fuel + 1, w, s =>
    match p.ready w s with
    | none => (w, s)
    | some t =>
      let (w, s) := p.step (w.advance t) s
      p.run fuel w s

/-- The steps that a rehearsal may take. -/
def maxSteps : Nat := 1000000000

end Process

end RebateRelay.Rehearsal
