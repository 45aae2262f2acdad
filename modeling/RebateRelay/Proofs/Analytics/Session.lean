import RebateRelay.Analytics.Poll

/-!
# Polls in time

A session is a poll in a world where answers and waits take time and shutdown is not signalled. It
proceeds by rounds. In a round the service takes its time over one question, and unless its answer
ends the poll, the wait that follows passes. A session remembers what was asked, when, and for how
long it waited.

What a round does is said once, by three lemmas: an answer is decisive, or it is not and the next
wait fits into the budget, or it does not fit.
-/

namespace RebateRelay

/-- How waits end: not early, unless they are longer than any alarm, and late by a grain at most. -/
structure Timer where
  /-- When a wait ends that begins at a moment. -/
  wake : Instant → Duration → Instant
  grain : Duration
  not_early : ∀ t d, t.after (d.min Instant.longestWait) ≤ wake t d
  not_late : ∀ t d, wake t d ≤ (t.after d).after grain

namespace Timer

theorem after_min_le_after (t : Instant) (d : Duration) :
    t.after (d.min Instant.longestWait) ≤ t.after d := by
  simp only [Instant.le_def, Instant.after, Duration.nanos_min]
  omega

theorem after_le_after_zero (t : Instant) (d : Duration) : t.after d ≤ (t.after d).after .zero :=
  Nat.le_refl _

/-- Waits that last as long as they should. -/
def exact : Timer where
  wake := Instant.after
  grain := .zero
  not_early := after_min_le_after
  not_late := after_le_after_zero

theorem after_min_le_alarm (t : Instant) (d : Duration) :
    t.after (d.min Instant.longestWait) ≤ t.alarm d := Instant.le_ceilMilli _

theorem alarm_le_after_milli (t : Instant) (d : Duration) :
    t.alarm d ≤ (t.after d).after (.ofMillis 1) := by
  have soon := Instant.ceilMilli_lt (t.after (d.min Instant.longestWait))
  simp only [Instant.lt_def, Instant.le_def, Instant.alarm, Instant.after,
    Duration.nanos_min] at *
  omega

/-- Waits that end with an alarm of the clock. -/
def alarm : Timer where
  wake := Instant.alarm
  grain := .ofMillis 1
  not_early := after_min_le_alarm
  not_late := alarm_le_after_milli

end Timer

namespace Poll

/-- An answer that ends a poll: a final state, or a failure that another attempt cannot mend. -/
def isDecisive : Except AnalyticsError ExecutionResults → Bool
  | .error e => !e.isRetryable
  | .ok results => results.status.state.isFinal

/-- One attempt as the world decides it. -/
structure Round where
  /-- How long the answer takes. -/
  took : Duration
  answer : Except AnalyticsError ExecutionResults
  /-- The sample for the jitter of a wait that may follow. -/
  sample : Float

namespace Progress

variable {p : Progress} {policy : BackoffPolicy} {now : Instant} {sample : Float}
variable {answer : Except AnalyticsError ExecutionResults}

/-- The progress with what an answer says about the job. -/
def observed (p : Progress) : Except AnalyticsError ExecutionResults → Progress
  | .error _ => p
  | .ok results => { p with execution := p.execution.observe results.status }

@[simp] theorem started_observed : (p.observed answer).started = p.started := by
  cases answer <;> rfl

@[simp] theorem interval_observed : (p.observed answer).interval = p.interval := by
  cases answer <;> rfl

@[simp] theorem attempts_observed : (p.observed answer).attempts = p.attempts := by
  cases answer <;> rfl

@[simp] theorem id_observed : (p.observed answer).execution.id = p.execution.id := by
  cases answer <;> rfl

@[simp] theorem kind_observed : (p.observed answer).execution.kind = p.execution.kind := by
  cases answer <;> rfl

/-- Why a poll goes on after an answer that does not end it. -/
def reason (p : Progress) : Except AnalyticsError ExecutionResults → AnalyticsError
  | .error e => e
  | .ok results => .notReady p.execution.id results.status.state.label

/-- The result of a poll that an answer ends. -/
def verdict (p : Progress) :
    Except AnalyticsError ExecutionResults → Except AnalyticsError CompletedExecution
  | .error e => .error e
  | .ok results =>
    match results.status.state with
    | .completed =>
      .ok ⟨p.execution.observe results.status, results.rows, results.metadata, p.attempts⟩
    | state => .error (.executionFailed p.execution.id state.label)

theorem verdict_of_completed {results : ExecutionResults}
    (completed : results.status.state = .completed) : p.verdict (.ok results) =
      .ok ⟨p.execution.observe results.status, results.rows, results.metadata, p.attempts⟩ := by
  simp only [verdict, completed]

theorem verdict_of_not_completed {results : ExecutionResults}
    (other : results.status.state ≠ .completed) : p.verdict (.ok results) =
      .error (.executionFailed p.execution.id results.status.state.label) := by
  simp only [verdict]

theorem answered_of_decisive (decisive : isDecisive answer = true) :
    (p.answered policy now sample answer).1 = .ended (p.verdict answer) := by
  cases answer with
  | error e =>
      have final : e.isRetryable = false := by simpa [isDecisive] using decisive
      simp [answered, verdict, final]
  | ok results =>
      simp only [isDecisive] at decisive
      cases state : results.status.state <;> simp [state, ExecutionState.isFinal] at decisive <;>
        simp [answered, verdict, state, Execution.observe]

theorem answered_of_undecided (undecided : isDecisive answer = false) :
    (p.answered policy now sample answer).1 =
      ((p.observed answer).backOff policy now sample (p.reason answer)).1 := by
  cases answer with
  | error e =>
      have passing : e.isRetryable = true := by simpa [isDecisive] using undecided
      simp [answered, observed, reason, passing]
  | ok results =>
      simp only [isDecisive] at undecided
      cases state : results.status.state <;> simp [state, ExecutionState.isFinal] at undecided <;>
        simp [answered, observed, reason, state, notReady, Execution.observe]

end Progress

theorem phase_of_result {poll : Poll} {result : Except AnalyticsError CompletedExecution}
    (finished : poll.result? = some result) : poll.phase = .ended result := by
  cases phase : poll.phase <;> simp [result?, phase] at finished
  rw [finished]

/-- A poll at a moment, with what has happened so far. -/
structure Session where
  poll : Poll
  now : Instant
  /-- Which jobs the service was asked about, and when. -/
  fetches : List (String × Instant)
  /-- The waits between the attempts. -/
  waits : List Duration

namespace Session

/-- A poll whose dispatch has just been answered with the name of a job. -/
def dispatched (policy : BackoffPolicy) (kind : QueryKind) (id : String) (began : Instant) :
    Session :=
  ⟨((start kind).step policy began (.executed (.ok id))).1, began, [], []⟩

/-- What one round makes of a session. A poll that is over stays as it is. -/
def round (policy : BackoffPolicy) (timer : Timer) (s : Session) (r : Round) : Session :=
  match s.poll.phase with
  | .fetching progress =>
    let heard := s.now.after r.took
    let poll := (s.poll.step policy heard (.fetched r.answer r.sample)).1
    let fetches := s.fetches ++ [(progress.execution.id, s.now)]
    match poll.phase with
    | .waiting _ wait =>
      let woken := timer.wake heard wait
      ⟨(poll.step policy woken .woken).1, woken, fetches, s.waits ++ [wait]⟩
    | _ => ⟨poll, heard, fetches, s.waits⟩
  | _ => s

/-- What a list of rounds makes of a session. -/
def run (policy : BackoffPolicy) (timer : Timer) (s : Session) (rounds : List Round) : Session :=
  rounds.foldl (round policy timer) s

/-- A session whose poll asks the service from a moment on. -/
def asking (kind : QueryKind) (p : Progress) (now : Instant) (fetches : List (String × Instant))
    (waits : List Duration) : Session :=
  ⟨⟨kind, .fetching p⟩, now, fetches, waits⟩

variable {policy : BackoffPolicy} {timer : Timer} {kind : QueryKind} {p : Progress} {now : Instant}
variable {fetches : List (String × Instant)} {waits : List Duration} {r : Round}

theorem eq_asking {s : Session} (asks : s.poll.phase = .fetching p) :
    s = asking s.poll.kind p s.now s.fetches s.waits := by
  obtain ⟨⟨kind, phase⟩, now, fetches, waits⟩ := s
  subst asks
  rfl

/-- A decisive answer ends the poll. -/
theorem round_of_decisive (decisive : isDecisive r.answer = true) :
    (asking kind p now fetches waits).round policy timer r =
      ⟨⟨kind, .ended (p.verdict r.answer)⟩, now.after r.took,
        fetches ++ [(p.execution.id, now)], waits⟩ := by
  simp only [round, asking, step, Phase.step, Progress.answered_of_decisive decisive]

/-- The next wait fits into the budget of a poll that began at some moment and that has had its
answer now. -/
def Fits (policy : BackoffPolicy) (began now : Instant) (wait : Duration) : Prop :=
  (now.since began).add wait ≤ policy.budget

/-- Any other answer leads to a wait and to the next question, if the wait fits. -/
theorem round_of_fits (undecided : isDecisive r.answer = false)
    (fits : Fits policy p.started (now.after r.took) (policy.jitter p.interval r.sample)) :
    (asking kind p now fetches waits).round policy timer r =
      asking kind ((p.observed r.answer).next policy)
        (timer.wake (now.after r.took) (policy.jitter p.interval r.sample))
        (fetches ++ [(p.execution.id, now)])
        (waits ++ [policy.jitter p.interval r.sample]) := by
  have within : ¬policy.budget < ((now.after r.took).since p.started).add
      (policy.jitter p.interval r.sample) := Nat.not_lt.mpr fits
  simp only [round, asking, step, Phase.step, Progress.answered_of_undecided undecided,
    Progress.backOff, Progress.started_observed, Progress.interval_observed, if_neg within]

/-- If the wait does not fit, the poll is over. -/
theorem round_of_not_fits (undecided : isDecisive r.answer = false)
    (late : ¬Fits policy p.started (now.after r.took) (policy.jitter p.interval r.sample)) :
    (asking kind p now fetches waits).round policy timer r =
      ⟨⟨kind, .ended (.error (.budgetExhausted p.execution.id p.attempts
          ((now.after r.took).since p.started) (p.reason r.answer).message))⟩,
        now.after r.took, fetches ++ [(p.execution.id, now)], waits⟩ := by
  have beyond : policy.budget < ((now.after r.took).since p.started).add
      (policy.jitter p.interval r.sample) := Nat.not_le.mp late
  simp only [round, asking, step, Phase.step, Progress.answered_of_undecided undecided,
    Progress.backOff, Progress.started_observed, Progress.interval_observed,
    Progress.attempts_observed, Progress.id_observed, if_pos beyond]

variable {s : Session} {result : Except AnalyticsError CompletedExecution}

/-- A poll that is over stays as it is. -/
theorem round_of_ended (ended : s.poll.phase = .ended result) (r : Round) :
    s.round policy timer r = s := by
  simp only [round, ended]

theorem run_of_ended (ended : s.poll.phase = .ended result) (rounds : List Round) :
    s.run policy timer rounds = s := by
  induction rounds with
  | nil => rfl
  | cons r rounds ih => rw [run, List.foldl_cons, round_of_ended ended]; exact ih

end Session

end Poll

end RebateRelay
