import RebateRelay.Ingest.Cycle
import RebateRelay.Proofs.Analytics.Session
import RebateRelay.Proofs.Ledger.Indexed

/-!
# Cycles side by side

Any number of cycles of both kinds share a store and a queue of records kept for later. Their steps
come in any order: a flush of one cycle may come between the refused insert of another and its
parking. An ingestion follows them all. Besides what the cycles share it keeps what the polls have
delivered, and the queue at each parking before the oldest records made room. What is delivered is
read off the poll alone, whatever its cycle then makes of it.

`Cycle.Goes` lists what a step of a cycle can be. The invariants are said over these cases.
-/

namespace RebateRelay

open Record

/-- A record is made of a row with a time after the cutoff, and of no other. -/
theorem mem_normalize {rows : List Row} {cutoff : Timestamp} {executionId : String} {r : Record} :
    r ∈ normalize rows cutoff executionId ↔
      ∃ row ∈ rows, ∃ t, row.blockTime = some t ∧ cutoff < t ∧ r = row.record t executionId := by
  simp only [normalize, List.mem_filterMap]
  refine exists_congr fun row => and_congr_right fun _ => ?_
  unfold Row.eligible?
  cases row.blockTime with
  | none => simp
  | some t => by_cases after : cutoff < t <;> simp [after, eq_comm]

namespace Requeue

variable {capacity : Nat} {queue : List Record}

theorem nodup_keep (distinct : (hashes queue).Nodup) : (hashes (keep capacity queue)).Nodup :=
  distinct.sublist ((List.drop_sublist _ _).map _)

/-- What is in a queue stays there or makes room. -/
theorem mem_hashes_keep_or_dropped {hash : String} (queued : hash ∈ hashes queue) :
    hash ∈ hashes (keep capacity queue) ∨ hash ∈ hashes (dropped capacity queue) := by
  rw [← dropped_append_keep capacity queue, hashes_append, List.mem_append] at queued
  exact queued.symm

/-- Records make room only in a queue that has grown beyond its bound. -/
theorem lt_length_of_mem_dropped {hash : String} (gone : hash ∈ hashes (dropped capacity queue)) :
    capacity < queue.length := by
  by_contra fits
  have none : excess capacity queue = 0 := by
    unfold excess
    omega
  simp [dropped, none] at gone

end Requeue

namespace Poll

variable {policy : BackoffPolicy} {now : Instant} {completed : CompletedExecution}

theorem Progress.backOff_ne_completed (p : Progress) (sample : Float) (reason : AnalyticsError) :
    (p.backOff policy now sample reason).1 ≠ .ended (.ok completed) := by
  unfold Progress.backOff
  simp only
  split <;> simp

/-- The answer that a job is completed completes the poll, and no other answer does. -/
theorem Progress.answered_completed_iff {p : Progress} {sample : Float}
    {answer : Except AnalyticsError ExecutionResults} :
    (p.answered policy now sample answer).1 = .ended (.ok completed) ↔
      ∃ results, answer = .ok results ∧ results.status.state = .completed ∧ completed =
        ⟨p.execution.observe results.status, results.rows, results.metadata, p.attempts⟩ := by
  constructor
  · intro completes
    cases decisive : isDecisive answer with
    | false =>
        rw [answered_of_undecided decisive] at completes
        exact absurd completes (Progress.backOff_ne_completed _ _ _)
    | true =>
        rw [answered_of_decisive decisive] at completes
        have verdict : p.verdict answer = .ok completed := Phase.ended.inj completes
        cases answer with
        | error e => cases verdict
        | ok results =>
            by_cases reported : results.status.state = .completed
            · rw [verdict_of_completed reported] at verdict
              exact ⟨results, rfl, reported, (Except.ok.inj verdict).symm⟩
            · rw [verdict_of_not_completed reported] at verdict
              cases verdict
  · rintro ⟨results, rfl, reported, rfl⟩
    have decisive : isDecisive (.ok results) = true := by
      rw [isDecisive, reported]
      rfl
    rw [answered_of_decisive decisive, verdict_of_completed reported]

/-- A poll that goes on completes in a step when it had asked and the service answers that the job
is completed, and only then; what it delivers is that answer. -/
theorem step_completed_iff {poll : Poll} {input : Input} (pending : poll.result? = none) :
    (poll.step policy now input).1.result? = some (.ok completed) ↔
      ∃ progress results sample, poll.phase = .fetching progress ∧
        input = .fetched (.ok results) sample ∧ results.status.state = .completed ∧ completed =
          ⟨progress.execution.observe results.status, results.rows, results.metadata,
            progress.attempts⟩ := by
  constructor
  · intro completes
    have ended : (poll.phase.step policy poll.kind now input).1 = .ended (.ok completed) :=
      phase_of_result completes
    obtain ⟨kind, phase⟩ := poll
    cases phase with
    | ended result => cases pending
    | executing =>
        rcases input with reply | _ | _ | _
        · cases reply <;> cases ended
        all_goals cases ended
    | waiting progress wait => cases input <;> cases ended
    | fetching progress =>
        cases input with
        | fetched answer sample =>
            obtain ⟨results, rfl, rest⟩ := Progress.answered_completed_iff.mp ended
            exact ⟨progress, results, sample, rfl, rfl, rest⟩
        | executed reply => cases ended
        | woken => cases ended
        | cancelled => cases ended
  · rintro ⟨progress, results, sample, asking, rfl, answer⟩
    have ended : (progress.answered policy now sample (.ok results)).1 = .ended (.ok completed) :=
      Progress.answered_completed_iff.mpr ⟨results, rfl, answer⟩
    simp only [step, result?, asking, Phase.step, ended]

end Poll

namespace Cycle

variable {rules : IngestRules} {kind : QueryKind} {now : Instant} {intake intake' : Intake}
variable {phase phase' : Phase} {input : Input}

/-- What the poll of a cycle delivers in a step: the result with which the poll itself ends. -/
def completing (rules : IngestRules) (now : Instant) : Phase → Input → List CompletedExecution
  | .polling _ poll, .poll input =>
    match (poll.step rules.backoff now input).1.result? with
    | some (.ok completed) => [completed]
    | _ => []
  | _, _ => []

/-- The queue that a parking comes to before records make room. -/
def filling (intake : Intake) : Phase → Input → List (List Record)
  | .parking records _, .park => [Requeue.add intake.queue records]
  | _, _ => []

/-- What a step of a cycle can be: which poll completes, which queue a parking comes to, the phase
that follows, and what the cycles then share. -/
inductive Goes (rules : IngestRules) (kind : QueryKind) (now : Instant) (intake : Intake) :
    Phase → Input → List CompletedExecution → List (List Record) → Phase → Intake → Prop
  /-- The records kept for later are stored, if there are any. -/
  | flushes (fault : Option StoreError) (retried : Nat) :
    Goes rules kind now intake .flushing (.store fault) [] []
      (.polling retried (.start kind)) ⟨(intake.ledger.insert intake.queue).1, []⟩
  /-- The store refuses the records kept for later. -/
  | keeps (e : StoreError) :
    Goes rules kind now intake .flushing (.store (some e)) [] [] (.ended (.error (.store e))) intake
  /-- The poll goes on. -/
  | polls (retried : Nat) (poll : Poll) (input : Poll.Input)
    (pending : (poll.step rules.backoff now input).1.result? = none) :
    Goes rules kind now intake (.polling retried poll) (.poll input) [] []
      (.polling retried (poll.step rules.backoff now input).1) intake
  /-- The poll has completed. -/
  | completes (retried : Nat) (poll : Poll) (input : Poll.Input) (completed : CompletedExecution)
    (result : (poll.step rules.backoff now input).1.result? = some (.ok completed)) :
    Goes rules kind now intake (.polling retried poll) (.poll input) [completed] []
      (.storing retried completed) intake
  /-- The poll has failed. -/
  | fails (retried : Nat) (poll : Poll) (input : Poll.Input) (e : AnalyticsError)
    (result : (poll.step rules.backoff now input).1.result? = some (.error e)) :
    Goes rules kind now intake (.polling retried poll) (.poll input) [] []
      (.ended (.error (.analytics e))) intake
  /-- The records of the rows are stored. -/
  | stores (retried inserted : Nat) (completed : CompletedExecution) :
    Goes rules kind now intake (.storing retried completed) (.store none) [] []
      (.ended (.ok ⟨kind, completed.execution.id, completed.rows.length,
        (records rules completed).length, retried, inserted⟩))
      { intake with ledger := (intake.ledger.insert (records rules completed)).1 }
  /-- The store refuses the records of the rows. -/
  | refuses (retried : Nat) (completed : CompletedExecution) (e : StoreError) :
    Goes rules kind now intake (.storing retried completed) (.store (some e)) [] []
      (.parking (records rules completed) e) intake
  /-- The records that could not be stored are parked. -/
  | parks (records : List Record) (e : StoreError) :
    Goes rules kind now intake (.parking records e) .park [] [Requeue.add intake.queue records]
      (.ended (.error (.store e)))
      { intake with queue := Requeue.keep rules.capacity (Requeue.add intake.queue records) }
  /-- The phase does not wait for this. -/
  | ignores (phase : Phase) (input : Input) :
    Goes rules kind now intake phase input [] [] phase intake

/-- A flush stores the queue, or fails and leaves it as it is. -/
theorem goes_flush (rules : IngestRules) (kind : QueryKind) (now : Instant) (intake : Intake)
    (fault : Option StoreError) :
    Goes rules kind now intake .flushing (.store fault) [] []
      (flush kind intake fault).1 (flush kind intake fault).2.1 := by
  obtain ⟨ledger, queue⟩ := intake
  cases queue with
  | nil => exact .flushes fault 0
  | cons r queue =>
      cases fault with
      | some e => exact .keeps e
      | none => exact .flushes none _

theorem goes_poll (rules : IngestRules) (kind : QueryKind) (now : Instant) (intake : Intake)
    (retried : Nat) (p : Poll) (input : Poll.Input) :
    Goes rules kind now intake (.polling retried p) (.poll input)
      (completing rules now (.polling retried p) (.poll input)) []
      (poll rules now retried p input).1 intake := by
  unfold poll completing
  cases result : (p.step rules.backoff now input).1.result? with
  | none => simpa [result] using .polls retried p input result
  | some outcome =>
      cases outcome with
      | error e => simpa [result] using .fails retried p input e result
      | ok completed => simpa [result] using .completes retried p input completed result

/-- Every step of a cycle is one of those. -/
theorem goes_step (rules : IngestRules) (kind : QueryKind) (now : Instant) (intake : Intake)
    (phase : Phase) (input : Input) :
    Goes rules kind now intake phase input
      (completing rules now phase input) (filling intake phase input)
      (phase.step rules kind now intake input).1 (phase.step rules kind now intake input).2.1 := by
  cases phase with
  | flushing =>
      cases input with
      | store fault => exact goes_flush rules kind now intake fault
      | poll input => exact .ignores _ _
      | park => exact .ignores _ _
  | polling retried p =>
      cases input with
      | poll input => exact goes_poll rules kind now intake retried p input
      | store fault => exact .ignores _ _
      | park => exact .ignores _ _
  | storing retried completed =>
      cases input with
      | store fault =>
          cases fault with
          | some e => exact .refuses retried completed e
          | none => exact .stores retried _ completed
      | poll input => exact .ignores _ _
      | park => exact .ignores _ _
  | parking records e =>
      cases input with
      | park => exact .parks records e
      | store fault => exact .ignores _ _
      | poll input => exact .ignores _ _
  | ended result => exact .ignores _ _

end Cycle

/-- What a poll has delivered. -/
structure Delivery where
  /-- The place of its cycle. -/
  place : Nat
  /-- How many parkings came before it. -/
  parkings : Nat
  job : CompletedExecution

/-- All cycles with what they share, and what has been seen of them. -/
structure Ingestion where
  intake : Intake
  cycles : List Cycle := []
  /-- What the polls have delivered. -/
  deliveries : List Delivery := []
  /-- The queue at each parking, before records made room. -/
  parked : List (List Record) := []

namespace Ingestion

/-- What happens to an ingestion. -/
inductive Move where
  /-- One more cycle begins. -/
  | start (kind : QueryKind)
  /-- The cycle at a place makes a step. -/
  | go (place : Nat) (now : Instant) (input : Cycle.Input)

/-- The ingestion after a move. -/
def after (rules : IngestRules) (s : Ingestion) : Move → Ingestion
  | .start kind => { s with cycles := s.cycles ++ [.start kind] }
  | .go place now input =>
    match s.cycles[place]? with
    | none => s
    | some cycle =>
      let (cycle', intake, _) := cycle.step rules now s.intake input
      { intake
        cycles := s.cycles.set place cycle'
        deliveries := s.deliveries ++
          (Cycle.completing rules now cycle.phase input).map (⟨place, s.parked.length, ·⟩)
        parked := s.parked ++ Cycle.filling s.intake cycle.phase input }

/-- The ingestion after moves, one after the other. -/
def run (rules : IngestRules) (s : Ingestion) (moves : List Move) : Ingestion :=
  moves.foldl (after rules) s

/-- The ingestion into a store before any cycle. -/
def into (l : Ledger) : Ingestion := { intake := { ledger := l } }

theorem run_cons (rules : IngestRules) (s : Ingestion) (move : Move) (moves : List Move) :
    s.run rules (move :: moves) = (s.after rules move).run rules moves := rfl

/-- A step of the cycle at a place: what it does to the cycle, to what all cycles share, and to what
has been seen. -/
structure Steps (rules : IngestRules) (place : Nat) (now : Instant) (input : Cycle.Input)
    (cycle : Cycle) (completed : List CompletedExecution) (parked : List (List Record))
    (phase : Cycle.Phase) (s s' : Ingestion) : Prop where
  at_place : s.cycles[place]? = some cycle
  goes : Cycle.Goes rules cycle.kind now s.intake cycle.phase input completed parked phase s'.intake
  cycles : s'.cycles = s.cycles.set place ⟨cycle.kind, phase⟩
  deliveries : s'.deliveries = s.deliveries ++ completed.map (⟨place, s.parked.length, ·⟩)
  parked : s'.parked = s.parked ++ parked

theorem steps_go (rules : IngestRules) {s : Ingestion} {place : Nat} {cycle : Cycle}
    (at_place : s.cycles[place]? = some cycle) (now : Instant) (input : Cycle.Input) :
    ∃ completed parked phase, Steps rules place now input cycle completed parked phase s
      (s.after rules (.go place now input)) := by
  have goes := Cycle.goes_step rules cycle.kind now s.intake cycle.phase input
  simp only [after, at_place]
  exact ⟨_, _, _, at_place, goes, rfl, rfl, rfl⟩

/-- What has been delivered after a step was delivered before or in it. -/
theorem Steps.mem_deliveries {rules : IngestRules} {place : Nat} {now : Instant}
    {input : Cycle.Input} {cycle : Cycle} {completed : List CompletedExecution}
    {parked : List (List Record)} {phase : Cycle.Phase} {s s' : Ingestion}
    (step : Steps rules place now input cycle completed parked phase s s') {d : Delivery}
    (seen : d ∈ s'.deliveries) :
    d ∈ s.deliveries ∨ ∃ c ∈ completed, d = ⟨place, s.parked.length, c⟩ := by
  rw [step.deliveries, List.mem_append] at seen
  refine seen.imp_right fun new => ?_
  obtain ⟨c, completes, rfl⟩ := List.mem_map.mp new
  exact ⟨c, completes, rfl⟩

theorem after_go_of_none (rules : IngestRules) {s : Ingestion} {place : Nat}
    (none : s.cycles[place]? = none) (now : Instant) (input : Cycle.Input) :
    s.after rules (.go place now input) = s := by
  simp only [after, none]

/-- What has been delivered stays at the front. -/
theorem prefix_deliveries_after (rules : IngestRules) (s : Ingestion) (move : Move) :
    s.deliveries <+: (s.after rules move).deliveries := by
  cases move with
  | start kind => exact List.prefix_refl _
  | go place now input =>
      cases at_place : s.cycles[place]? with
      | none => rw [after_go_of_none rules at_place]
      | some cycle =>
          obtain ⟨completed, parked, phase, step⟩ := steps_go rules at_place now input
          exact step.deliveries ▸ List.prefix_append _ _

theorem prefix_deliveries_run (rules : IngestRules) (s : Ingestion) (moves : List Move) :
    s.deliveries <+: (s.run rules moves).deliveries := by
  induction moves generalizing s with
  | nil => exact List.prefix_refl _
  | cons move moves ih => exact (prefix_deliveries_after rules s move).trans (ih _)

/-- The poll of the cycle at a place has asked for the result of its job. -/
def Asks (s : Ingestion) (place : Nat) (progress : Poll.Progress) : Prop :=
  ∃ kind retried poll, s.cycles[place]? = some ⟨kind, .polling retried poll⟩ ∧
    poll.phase = .fetching progress

/-- Whenever the service answers that the job is completed, its rows are delivered. -/
theorem Asks.mem_deliveries {s : Ingestion} {place : Nat} {progress : Poll.Progress}
    (asks : s.Asks place progress) (rules : IngestRules) (now : Instant)
    {results : ExecutionResults} (reported : results.status.state = .completed) (sample : Float) :
    ⟨place, s.parked.length, progress.execution.observe results.status, results.rows,
        results.metadata, progress.attempts⟩ ∈
      (s.after rules (.go place now (.poll (.fetched (.ok results) sample)))).deliveries := by
  obtain ⟨kind, retried, poll, at_place, asking⟩ := asks
  have pending : poll.result? = none := by
    rw [Poll.result?, asking]
  have completes :
      (poll.step rules.backoff now (.fetched (.ok results) sample)).1.result? =
        some (.ok ⟨progress.execution.observe results.status, results.rows, results.metadata,
          progress.attempts⟩) :=
    (Poll.step_completed_iff pending).mpr
      ⟨progress, results, sample, asking, rfl, reported, rfl⟩
  simp [after, at_place, Cycle.completing, completes]

end Ingestion

end RebateRelay
