import RebateRelay.Proofs.Ledger.History
import RebateRelay.Relay.Batch

/-!
# Traces of batches

Batches are due, go on, and end, and meanwhile records are inserted: a till moves from state to
state in whatever order these things happen. A trace follows it. Besides the till it keeps what
the running batch has exchanged with the limiter, the submitter and the store, and the results of
the batches that were not skipped.

`Batch.Goes` lists how a running batch can go on. Each case says what is exchanged, what becomes of
the ledger, and where the batch is then. Everything else about traces is said over these cases.
-/

namespace RebateRelay

/-- What is exchanged about the record whose turn it is. -/
inductive Exchange where
  /-- The attempt to take a token has ended: with the token, or else with shutdown. -/
  | token (record : Record) (granted : Bool)
  /-- A payment is handed to the submitter. -/
  | submit (record : Record) (payment : Payment)
  /-- The submitter has answered. -/
  | answer (record : Record) (reply : Except ChainError UInt64)
  /-- The store has entered the payment or has refused to. -/
  | entry (record : Record) (nonce : UInt64) (result : Except StoreError Unit)

namespace Batch

/-- The payment that is being submitted. -/
def submission? (b : Batch) : Option Payment :=
  match b.phase with
  | .submitting payment => some payment
  | _ => none

/-- The batch is about to take a token or waits for one. -/
def IsTaking (b : Batch) : Prop :=
  b.phase = .reserving ∨ ∃ wait, b.phase = .waiting wait

/-- The input is what the batch waits for. -/
def Awaits (b : Batch) (input : Input) : Prop :=
  match b.phase, input with
  | .reserving, .token | .reserving, .cancelled => True
  | .waiting _, .woken | .waiting _, .cancelled => True
  | .submitting _, .submitted _ => True
  | .marking .., .mark _ => True
  | _, _ => False

namespace Course

/-- The batch, if it is still running. -/
def batch? : Course → Option Batch
  | .running batch => some batch
  | .over _ => none

/-- The result, if the batch is over. -/
def result? : Course → Option (Except RelayError BatchSummary)
  | .running _ => none
  | .over result => some result

/-- The records whose turns are not over: the current one and those that follow. -/
def queue : Course → List Record
  | .running batch => batch.record :: batch.rest
  | .over _ => []

end Course

/-- After a record comes the one that follows, or the end. -/
@[simp] theorem queue_next (summary : BatchSummary) (rest : List Record) :
    (next summary rest).1.queue = rest := by
  cases rest <;> rfl

@[simp] theorem queue_begin (dryRun : Bool) (records : List Record) :
    (begin dryRun records).1.queue = records := by
  cases records <;> rfl

end Batch

/-- What the store answers when a payment is to be entered; a fault comes before the ledger. -/
def Ledger.entry (l : Ledger) (hash : String) (nonce : UInt64) (fault : Option StoreError) :
    Except StoreError Unit :=
  match fault with
  | some e => .error e
  | none => (l.markPaid hash nonce).map fun _ => ()

namespace Till

variable {α : Type}

/-- What happens to a till. -/
inductive Move where
  /-- A batch is due; a fault means that the unpaid records cannot be read. -/
  | start (fault : Option StoreError)
  /-- The running batch goes on. -/
  | proceed (now : Instant) (input : Batch.Input)
  /-- Records are inserted; a fault means that the store refuses. -/
  | insert (records : List Record) (fault : Option StoreError)

/-- What the running batch is told by an input. -/
def heard [Reckoning α] (m : Paymaster α) (now : Instant) (till : Till α)
    (input : Batch.Input) : List Exchange :=
  match till.batch with
  | none => []
  | some b =>
    match b.phase, input with
    | .reserving, .token =>
      if (m.limiter.reserve till.bucket now).2 = .zero then [.token b.record true] else []
    | .waiting _, .woken => [.token b.record true]
    | .reserving, .cancelled | .waiting _, .cancelled => [.token b.record false]
    | .submitting _, .submitted reply => [.answer b.record reply]
    | .marking _ nonce, .mark fault =>
      [.entry b.record nonce (till.ledger.entry b.record.hash nonce fault)]
    | _, _ => []

/-- The payment that a step hands to the submitter. -/
def handed (before after : Option Batch) : List Exchange :=
  match before.bind Batch.submission?, after with
  | none, some b => (b.submission?.map fun payment => .submit b.record payment).toList
  | _, _ => []

/-- What is exchanged in one step of the running batch. -/
def exchanged [Reckoning α] (m : Paymaster α) (now : Instant) (till : Till α)
    (input : Batch.Input) : List Exchange :=
  till.heard m now input ++ handed till.batch (till.step m now input).till.batch

/-- The records of the running batch whose turns are not over. -/
def queue (till : Till α) : List Record :=
  match till.batch with
  | some b => b.record :: b.rest
  | none => []

/-- The records that a move adds to those offered to the store. -/
def Move.operations : Move → List Ledger.Operation
  | insert records none => [.insert records]
  | _ => []

end Till

/-- A till with what has been seen of its batches. -/
structure Trace (α : Type) where
  till : Till α
  /-- What has been exchanged, in order. -/
  exchanges : List Exchange := []
  /-- The results of the batches that were not skipped. -/
  results : List (Except RelayError BatchSummary) := []

namespace Trace

variable {α : Type} [Reckoning α]

/-- The trace after a move. -/
def after (m : Paymaster α) (t : Trace α) : Till.Move → Trace α
  | .start fault =>
    let step := t.till.start m fault
    { t with
      till := step.till
      results := t.results ++ if t.till.batch.isSome then [] else step.result.toList }
  | .proceed now input =>
    let step := t.till.step m now input
    ⟨step.till, t.exchanges ++ t.till.exchanged m now input, t.results ++ step.result.toList⟩
  | .insert _ (some _) => t
  | .insert records none =>
    { t with till := { t.till with ledger := (t.till.ledger.insert records).1 } }

/-- The trace after moves, one after the other. -/
def run (m : Paymaster α) (t : Trace α) (moves : List Till.Move) : Trace α :=
  moves.foldl (after m) t

/-- The trace of a store with a history, before any batch. -/
def ofHistory (operations : List Ledger.Operation) (bucket : Bucket α) : Trace α :=
  ⟨⟨.run .empty operations, bucket, none⟩, [], []⟩

end Trace

namespace Batch

variable {α : Type}

/-- How a running batch goes on: what it hears, what is exchanged, and the ledger and the course
that it comes to. -/
inductive Goes (m : Paymaster α) (l : Ledger) (b : Batch) :
    Input → List Exchange → Ledger → Course → Prop
  /-- The token has to be waited for. -/
  | waits (wait : Duration) (phase : b.phase = .reserving) :
    Goes m l b .token [] l (.running { b with phase := .waiting wait })
  /-- The token is there, and a payment is submitted. -/
  | submits {input : Input} (payment : Payment) (phase : b.IsTaking)
    (order : m.order b.record = .ok (.pay payment)) :
    Goes m l b input [.token b.record true, .submit b.record payment] l
      (.running { b with phase := .submitting payment })
  /-- The token is there, and the payout is only reported. -/
  | simulates {input : Input} (payout : Payout) (phase : b.IsTaking)
    (order : m.order b.record = .ok (.simulate payout)) :
    Goes m l b input [.token b.record true] l
      (next { b.summary with simulated := b.summary.simulated + 1 } b.rest).1
  /-- The token is there, and the payment cannot be prepared. -/
  | rejects {input : Input} (e : RelayError) (phase : b.IsTaking)
    (order : m.order b.record = .error e) :
    Goes m l b input [.token b.record true] l
      (next { b.summary with failed := b.summary.failed + 1 } b.rest).1
  /-- Shutdown has been seen before the token was there. -/
  | cancels (phase : b.IsTaking) :
    Goes m l b .cancelled [.token b.record false] l (.over (.error .cancelled))
  /-- The submitter has taken the payment. -/
  | accepted (payment : Payment) (nonce : UInt64) (phase : b.phase = .submitting payment) :
    Goes m l b (.submitted (.ok nonce)) [.answer b.record (.ok nonce)] l
      (.running { b with phase := .marking payment nonce })
  /-- The submitter has refused the payment. -/
  | refused (payment : Payment) (e : ChainError) (phase : b.phase = .submitting payment) :
    Goes m l b (.submitted (.error e)) [.answer b.record (.error e)] l
      (next { b.summary with failed := b.summary.failed + 1 } b.rest).1
  /-- The payment has been entered. -/
  | enters (payment : Payment) (nonce : UInt64) (l' : Ledger)
    (phase : b.phase = .marking payment nonce) (marked : l.markPaid b.record.hash nonce = .ok l') :
    Goes m l b (.mark none) [.entry b.record nonce (.ok ())] l'
      (next { b.summary with paid := b.summary.paid + 1 } b.rest).1
  /-- The payment could not be entered. -/
  | leaves (payment : Payment) (nonce : UInt64) (fault : Option StoreError) (e : StoreError)
    (phase : b.phase = .marking payment nonce)
    (why : fault = some e ∨ fault = none ∧ l.markPaid b.record.hash nonce = .error e) :
    Goes m l b (.mark fault) [.entry b.record nonce (.error e)] l
      (next { b.summary with failed := b.summary.failed + 1 } b.rest).1
  /-- The batch does not wait for this. -/
  | ignores {input : Input} (other : ¬ b.Awaits input) : Goes m l b input [] l (.running b)

end Batch

namespace Till

variable {α : Type}

@[simp] theorem follow_ledger (till : Till α) (c : Batch.Course × List Event) :
    (till.follow c).till.ledger = till.ledger := by
  obtain ⟨_ | _, _⟩ := c <;> rfl

@[simp] theorem follow_batch (till : Till α) (c : Batch.Course × List Event) :
    (till.follow c).till.batch = c.1.batch? := by
  obtain ⟨_ | _, _⟩ := c <;> rfl

@[simp] theorem follow_result (till : Till α) (c : Batch.Course × List Event) :
    (till.follow c).result = c.1.result? := by
  obtain ⟨_ | _, _⟩ := c <;> rfl

/-- Nothing is handed over when the next record's turn comes. -/
@[simp] theorem handed_next (before : Option Batch) (summary : BatchSummary)
    (rest : List Record) : handed before (Batch.next summary rest).1.batch? = [] := by
  unfold handed
  cases rest <;> cases before.bind Batch.submission? <;> rfl

/-- Nothing is handed over while a submission is under way. -/
theorem handed_of_submitting {b : Batch} {payment : Payment}
    (phase : b.phase = .submitting payment) (after : Option Batch) :
    handed (some b) after = [] := by
  simp [handed, Batch.submission?, phase]

end Till

namespace Batch

variable {α : Type} (m : Paymaster α) (l : Ledger) {b : Batch}

theorem goes_granted (input : Input) (taking : b.IsTaking) :
    Goes m l b input (.token b.record true :: Till.handed (some b) (b.granted m).1.batch?) l
      (b.granted m).1 := by
  have idle : (some b).bind submission? = none := by
    rcases taking with phase | ⟨wait, phase⟩ <;> simp [submission?, phase]
  unfold granted
  cases order : m.order b.record with
  | error e =>
      simp only [fail, Till.handed_next]
      exact .rejects e taking order
  | ok o =>
      cases o with
      | simulate payout =>
          simp only [Till.handed_next]
          exact .simulates payout taking order
      | pay payment =>
          simp only [Till.handed, idle, Course.batch?]
          exact .submits payment taking order

theorem goes_submitted {payment : Payment} (phase : b.phase = .submitting payment)
    (reply : Except ChainError UInt64) :
    Goes m l b (.submitted reply) [.answer b.record reply] l (b.submitted payment reply).1 := by
  cases reply with
  | error e => exact .refused payment e phase
  | ok nonce => exact .accepted payment nonce phase

end Batch

namespace Till

variable {α : Type}

/-- Entering a payment marks its record paid, or else the record fails. -/
theorem goes_enter (m : Paymaster α) (till : Till α) {b : Batch} {payment : Payment}
    {nonce : UInt64} (phase : b.phase = .marking payment nonce) (fault : Option StoreError) :
    ∃ summary, Batch.Goes m till.ledger b (.mark fault)
        [.entry b.record nonce (till.ledger.entry b.record.hash nonce fault)]
        (till.enter b payment nonce fault).till.ledger (Batch.next summary b.rest).1 ∧
      (till.enter b payment nonce fault).till.batch = (Batch.next summary b.rest).1.batch? ∧
      (till.enter b payment nonce fault).result = (Batch.next summary b.rest).1.result? := by
  unfold enter Ledger.entry
  cases fault with
  | some e =>
      simp only [follow_ledger, follow_batch, follow_result, Batch.unmarked, Batch.fail]
      exact ⟨_, .leaves payment nonce (some e) e phase (Or.inl rfl), rfl, rfl⟩
  | none =>
      cases marked : till.ledger.markPaid b.record.hash nonce with
      | error e =>
          simp only [follow_ledger, follow_batch, follow_result, Batch.unmarked, Batch.fail]
          exact ⟨_, .leaves payment nonce none e phase (Or.inr ⟨rfl, marked⟩), rfl, rfl⟩
      | ok l' =>
          simp only [follow_ledger, follow_batch, follow_result, Batch.marked]
          exact ⟨_, .enters payment nonce l' phase marked, rfl, rfl⟩

variable [Reckoning α]

/-- What the running batch does not wait for changes nothing and exchanges nothing. -/
theorem step_of_not_awaits (m : Paymaster α) (now : Instant) {till : Till α} {b : Batch}
    (running : till.batch = some b) {input : Batch.Input} (other : ¬ b.Awaits input) :
    till.step m now input = ⟨till, [], none⟩ ∧ till.exchanged m now input = [] := by
  have unchanged : till.step m now input = ⟨till, [], none⟩ := by
    unfold step
    unfold Batch.Awaits at other
    cases phase : b.phase <;> cases input <;> simp_all
  refine ⟨unchanged, ?_⟩
  unfold exchanged heard
  rw [unchanged]
  unfold Batch.Awaits at other
  cases phase : b.phase <;> cases input <;>
    simp_all [handed, Batch.submission?]

/-- Every step of a running batch is one of the ways in which it can go on. -/
theorem goes_step (m : Paymaster α) (now : Instant) {till : Till α} {b : Batch}
    (running : till.batch = some b) (input : Batch.Input) :
    ∃ course, Batch.Goes m till.ledger b input (till.exchanged m now input)
        (till.step m now input).till.ledger course ∧
      (till.step m now input).till.batch = course.batch? ∧
      (till.step m now input).result = course.result? := by
  by_cases awaited : b.Awaits input
  case neg =>
    obtain ⟨unchanged, nothing⟩ := till.step_of_not_awaits m now running awaited
    rw [unchanged, nothing]
    exact ⟨.running b, .ignores awaited, running, rfl⟩
  obtain ⟨l, bucket, _⟩ := till
  obtain ⟨summary, record, rest, phase⟩ := b
  subst running
  cases phase <;> cases input <;> simp only [Batch.Awaits] at awaited
  case reserving.token =>
    by_cases there : (m.limiter.reserve bucket now).2 = .zero
    · refine ⟨(Batch.granted m ⟨summary, record, rest, .reserving⟩).1, ?_, ?_⟩
      · simpa [exchanged, heard, step, takeToken, there] using
          Batch.goes_granted m l .token (Or.inl rfl)
      · simp [step, takeToken, there]
    · refine ⟨.running ⟨summary, record, rest, .waiting (m.limiter.reserve bucket now).2⟩, ?_, ?_⟩
      · simpa [exchanged, heard, step, takeToken, there, handed, Batch.submission?] using
          .waits (b := ⟨summary, record, rest, .reserving⟩) _ rfl
      · simp [step, takeToken, there, Batch.Course.batch?, Batch.Course.result?]
  case reserving.cancelled =>
    exact ⟨_, .cancels (Or.inl rfl), rfl, rfl⟩
  case waiting.woken wait =>
    refine ⟨(Batch.granted m ⟨summary, record, rest, .waiting wait⟩).1, ?_, ?_⟩
    · simpa [exchanged, heard, step] using Batch.goes_granted m l .woken (Or.inr ⟨wait, rfl⟩)
    · simp [step]
  case waiting.cancelled wait =>
    exact ⟨_, .cancels (Or.inr ⟨wait, rfl⟩), rfl, rfl⟩
  case submitting.submitted payment reply =>
    have nothing : ∀ after, handed (some ⟨summary, record, rest, .submitting payment⟩) after = [] :=
      handed_of_submitting rfl
    refine ⟨(Batch.submitted ⟨summary, record, rest, .submitting payment⟩ payment reply).1, ?_, ?_⟩
    · simpa [exchanged, heard, step, nothing] using Batch.goes_submitted m l rfl reply
    · simp [step]
  case marking.mark payment nonce fault =>
    obtain ⟨after, goes, batch, result⟩ :=
      goes_enter m ⟨l, bucket, some ⟨summary, record, rest, .marking payment nonce⟩⟩
        (b := ⟨summary, record, rest, .marking payment nonce⟩) rfl fault
    refine ⟨_, ?_, batch, result⟩
    simpa [exchanged, heard, step, batch] using goes

end Till

end RebateRelay
