import RebateRelay.Rehearsal.World

/-!
# Rehearsing batches

A batch begins at a given moment. Waits for a token and submissions take time; the wait is cut short
by shutdown and the submission is not. Reading the records and entering a payment take no time.
-/

namespace RebateRelay.Rehearsal

/-- What is known about a batch. -/
inductive Paying where
  /-- It is due at a moment. -/
  | due (start : Instant)
  /-- It is the batch that is running, and its phase is done at a moment. -/
  | running (done : Instant)
  /-- It is over. -/
  | over (result : Except RelayError BatchSummary) (ended : Instant)

namespace Paying

/-- How long the running batch stays in its phase. -/
def delay (w : World) (batch : Batch) : Duration :=
  match batch.phase with
  | .waiting wait => wait
  | .submitting _ => w.signer.latency
  | _ => .zero

/-- What is known about the running batch from now on. -/
def runningNow (w : World) : Paying :=
  match w.batch with
  | some batch => .running (w.now.alarm (delay w batch))
  | none => .running w.now

/-- Takes over what a step has done. -/
def follow (w : World) (step : Till.Step Float) : World × Paying :=
  let w := (w.withTill step.till).report step.events
  match step.result with
  | some result => (w, .over result w.now)
  | none => (w, runningNow w)

/-- Submits the payment of the running batch. -/
def submit (w : World) (chainId : UInt64) (payment : Payment) : World × Batch.Input :=
  match w.signer.submit w.now chainId payment.build with
  | (signer, .ok sent) =>
    ({ w with signer, sent := w.sent.push sent }, .submitted (.ok sent.nonce))
  | (signer, .error e) => ({ w with signer }, .submitted (.error e))

/-- What moves the running batch. -/
def hear (m : Paymaster Float) (w : World) (batch : Batch) : World × Batch.Input :=
  match batch.phase with
  | .reserving => (w, if w.isStopped then .cancelled else .token)
  | .waiting _ => (w, if w.isStopped then .cancelled else .woken)
  | .submitting payment => submit w m.chainId payment
  | .marking .. => (w, .mark w.outage.updateFault)

/-- When the phase of the running batch ends. -/
def phaseEnd (w : World) (done : Instant) : Instant :=
  match w.batch with
  | some { phase := .waiting _, .. } => w.signal.cut done
  | _ => done

/-- A batch as a process. -/
def process (m : Paymaster Float) : Process Paying where
  ready w
    | .due t => some t
    | .running done => some (phaseEnd w done)
    | .over .. => none
  step w
    | .due _ => follow w (w.till.start m w.outage.readFault)
    | .running done =>
      match w.batch with
      | none => (w, .running done)
      | some batch =>
        let (w, input) := hear m w batch
        follow w (w.till.step m w.now input)
    | .over result ended => (w, .over result ended)

/-- The result of a batch that is over, and when that was. -/
def result? : Paying → Option (Except RelayError BatchSummary × Instant)
  | .over result ended => some (result, ended)
  | _ => none

end Paying

namespace World

/-- Runs a batch to its end. -/
def runBatch (w : World) (m : Paymaster Float) :
    World × Option (Except RelayError BatchSummary) :=
  let (w, s) := (Paying.process m).run Process.maxSteps w (.due w.now)
  (w, s.result?.map Prod.fst)

/-- Runs a batch now and another one a while later, each to its end. -/
def runBatches (w : World) (m : Paymaster Float) (d : Duration) : World × Paying × Paying :=
  let both := (Paying.process m).beside (Paying.process m)
  both.run Process.maxSteps w (.due w.now, .due (w.now.alarm d))

end World

end RebateRelay.Rehearsal
