import RebateRelay.Proofs.Analytics.Session

/-!
# A poll ends within its budget

However the waits of a policy are reckoned, none is shorter than a second, and none is begun that
would end beyond the budget. So a poll that hears nothing decisive asks once for each second of its
budget, and once more, at the most. This holds of policies that are out of order, and of answers
that take any time.
-/

namespace RebateRelay

/-- A wait of a second or more passes, on any timer, by a second or more. -/
theorem Timer.after_shortest_le_wake (timer : Timer) (t : Instant) {wait : Duration}
    (long : BackoffPolicy.shortest ≤ wait) :
    t.after BackoffPolicy.shortest ≤ timer.wake t wait := by
  refine Nat.le_trans ?_ (timer.not_early t wait)
  have possible : BackoffPolicy.shortest ≤ Instant.longestWait := by decide
  rw [Duration.le_def] at long possible
  simp only [Instant.after, Duration.nanos_min]
  omega

/-- The poll of a job is at its question number `n + 1`. -/
structure Poll.Progress.At (id : String) (began : Instant) (n : Nat) (p : Progress) : Prop where
  job : p.execution.id = id
  started : p.started = began
  attempts : p.attempts = min (n + 1) maxAttempts

theorem Poll.Progress.At.next {policy : BackoffPolicy} {id : String} {began : Instant} {n : Nat}
    {p : Progress} (place : p.At id began n) (answer : Except AnalyticsError ExecutionResults) :
    ((p.observed answer).next policy).At id began (n + 1) where
  job := by simp [Progress.next, place.job]
  started := by simp [Progress.next, place.started]
  attempts := by
    simp only [Progress.next, Progress.attempts_observed, place.attempts]
    generalize maxAttempts = most
    omega

namespace Poll.Session

variable {policy : BackoffPolicy} {timer : Timer} {kind : QueryKind} {id : String}
variable {began : Instant} {s : Session} {r : Round} {n : Nat}

/-- What the first so many of an infinite sequence of rounds make of a session. -/
def course (policy : BackoffPolicy) (timer : Timer) (s : Session) (rounds : Nat → Round) (n : Nat) :
    Session :=
  s.run policy timer ((List.range n).map rounds)

theorem course_succ (rounds : Nat → Round) :
    s.course policy timer rounds (n + 1) =
      (s.course policy timer rounds n).round policy timer (rounds n) := by
  simp only [course, run, List.range_succ, List.map_append, List.foldl_append, List.map_cons,
    List.map_nil, List.foldl_cons, List.foldl_nil]

/-- No question is asked later than this. -/
def latest (policy : BackoffPolicy) (timer : Timer) (began : Instant) : Instant :=
  (began.after policy.budget).after timer.grain

/-- What a session has done by the time of so many questions: all were about one job, none came too
late, and no wait was too short. -/
structure Sound (policy : BackoffPolicy) (timer : Timer) (id : String) (began : Instant)
    (questions : Nat) (s : Session) : Prop where
  asked : s.fetches.length = questions
  same_job : ∀ fetch ∈ s.fetches, fetch.1 = id
  in_time : ∀ fetch ∈ s.fetches, fetch.2 ≤ latest policy timer began
  waited : ∀ wait ∈ s.waits, BackoffPolicy.shortest ≤ wait

/-- A session that goes on after so many waits, which took a second each at least. -/
structure Underway (policy : BackoffPolicy) (timer : Timer) (id : String) (began : Instant)
    (n : Nat) (s : Session) : Prop where
  sound : Sound policy timer id began n s
  asks : ∃ p, s.poll.phase = .fetching p ∧ p.At id began n
  affordable : (Duration.ofSeconds n).nanos ≤ policy.budget.nanos
  not_early : began.after (.ofSeconds n) ≤ s.now
  not_late : s.now ≤ latest policy timer began

/-- A session that ended for want of time after so many waits and one more answer. -/
structure Spent (policy : BackoffPolicy) (timer : Timer) (id : String) (began : Instant) (n : Nat)
    (last : Round) (s : Session) : Prop where
  sound : Sound policy timer id began (n + 1) s
  ended : ∃ elapsed lastError, s.now = began.after elapsed ∧
    elapsed.nanos ≤ policy.budget.nanos + timer.grain.nanos + last.took.nanos ∧
    s.poll.phase = .ended (.error (.budgetExhausted id (min (n + 1) maxAttempts) elapsed lastError))

theorem Sound.ask {questions : Nat} {fetch : String × Instant} {waits : List Duration}
    {now : Instant} {poll : Poll} (sound : Sound policy timer id began questions s)
    (job : fetch.1 = id) (soon : fetch.2 ≤ latest policy timer began)
    (waited : ∀ wait ∈ waits, wait ∈ s.waits ∨ BackoffPolicy.shortest ≤ wait) :
    Sound policy timer id began (questions + 1) ⟨poll, now, s.fetches ++ [fetch], waits⟩ where
  asked := by simp [sound.asked]
  same_job f inside := by
    rcases List.mem_append.mp inside with before | new
    · exact sound.same_job f before
    · rw [List.mem_singleton.mp new]
      exact job
  in_time f inside := by
    rcases List.mem_append.mp inside with before | new
    · exact sound.in_time f before
    · rw [List.mem_singleton.mp new]
      exact soon
  waited wait inside := (waited wait inside).elim (sound.waited wait) fun long => long

theorem underway_dispatched :
    Underway policy timer id began 0 (dispatched policy kind id began) where
  sound := ⟨rfl, by simp [dispatched], by simp [dispatched], by simp [dispatched]⟩
  asks := ⟨_, rfl, rfl, rfl, rfl⟩
  affordable := by simp [Duration.ofSeconds]
  not_early := by simp [Instant.le_def, Instant.after, Duration.ofSeconds, dispatched]
  not_late := by simp [Instant.le_def, Instant.after, latest, dispatched]; omega

/-- The budget is not the longest time there is, so the sum that has to fit is not cut off. -/
theorem Fits.affordable {now : Instant} {wait : Duration} (fits : Fits policy began now wait)
    (finite : policy.budget < .longest) :
    now.nanos - began.nanos + wait.nanos ≤ policy.budget.nanos := by
  simp only [Fits, Duration.add, Duration.le_def, Duration.nanos_min, Instant.since] at fits
  rw [Duration.lt_def] at finite
  omega

/-- After an answer that is not decisive the session goes on, if the next wait fits. -/
theorem Underway.goes_on (underway : Underway policy timer id began n s)
    (finite : policy.budget < .longest) (undecided : isDecisive r.answer = false) {p : Progress}
    (asks : s.poll.phase = .fetching p) (place : p.At id began n)
    (fits : Fits policy began (s.now.after r.took) (policy.jitter p.interval r.sample)) :
    Underway policy timer id began (n + 1) (s.round policy timer r) := by
  rw [eq_asking asks, round_of_fits undecided (place.started.symm ▸ fits)]
  have early := underway.not_early
  have long := policy.shortest_le_jitter p.interval r.sample
  have affordable := fits.affordable finite
  have woken := timer.not_late (s.now.after r.took) (policy.jitter p.interval r.sample)
  have passed := timer.after_shortest_le_wake (s.now.after r.took) long
  simp only [Instant.le_def, Instant.after, Duration.le_def, BackoffPolicy.shortest,
    Duration.ofSeconds] at early long affordable woken passed
  have more : (n + 1) * Duration.nanosPerSecond =
      n * Duration.nanosPerSecond + Duration.nanosPerSecond := Nat.succ_mul n _
  refine ⟨?sound, ⟨_, rfl, place.next _⟩, ?affordable, ?not_early, ?not_late⟩
  case sound =>
    refine underway.sound.ask place.job underway.not_late fun wait inside => ?_
    rcases List.mem_append.mp inside with before | new
    · exact .inl before
    · rw [List.mem_singleton.mp new]
      exact .inr (policy.shortest_le_jitter _ _)
  case affordable => simp only [Duration.ofSeconds]; omega
  case not_early => simp only [Instant.le_def, Instant.after, Duration.ofSeconds, asking]; omega
  case not_late => simp only [Instant.le_def, Instant.after, latest, asking]; omega

/-- If the next wait does not fit, the time of the session is spent. -/
theorem Underway.runs_out (underway : Underway policy timer id began n s)
    (undecided : isDecisive r.answer = false) {p : Progress}
    (asks : s.poll.phase = .fetching p) (place : p.At id began n)
    (beyond : ¬Fits policy began (s.now.after r.took) (policy.jitter p.interval r.sample)) :
    Spent policy timer id began n r (s.round policy timer r) := by
  rw [eq_asking asks, round_of_not_fits undecided (place.started.symm ▸ beyond), place.started,
    place.job, place.attempts]
  have early := underway.not_early
  have late := underway.not_late
  simp only [latest, Instant.le_def, Instant.after] at early late
  refine ⟨?sound, ⟨_, _, ?now, ?elapsed, rfl⟩⟩
  case sound => exact underway.sound.ask rfl underway.not_late fun wait inside => .inl inside
  case now =>
    simp only [Instant.after, Instant.since, Instant.mk.injEq]
    omega
  case elapsed =>
    simp only [Instant.after, Instant.since]
    omega

/-- A round without a decisive answer: the session goes on, or its time is spent. -/
theorem Underway.round (underway : Underway policy timer id began n s)
    (finite : policy.budget < .longest) (undecided : isDecisive r.answer = false) :
    Underway policy timer id began (n + 1) (s.round policy timer r) ∨
      Spent policy timer id began n r (s.round policy timer r) := by
  obtain ⟨p, asks, place⟩ := underway.asks
  by_cases fits : Fits policy began (s.now.after r.took) (policy.jitter p.interval r.sample)
  · exact .inl (underway.goes_on finite undecided asks place fits)
  · exact .inr (underway.runs_out undecided asks place fits)

theorem Underway.le_wholeSeconds (underway : Underway policy timer id began n s) :
    n ≤ policy.budget.wholeSeconds :=
  (Nat.le_div_iff_mul_le (by decide)).mpr underway.affordable

/-- A sequence of rounds without a decisive answer goes on, or has come to a point where its time
was spent. -/
theorem underway_or_spent (timer : Timer) (kind : QueryKind) (id : String) (began : Instant)
    (finite : policy.budget < .longest) {rounds : Nat → Round}
    (undecided : ∀ i, isDecisive (rounds i).answer = false) (k : Nat) :
    let s := (dispatched policy kind id began).course policy timer rounds
    Underway policy timer id began k (s k) ∨
      ∃ n ≤ policy.budget.wholeSeconds, Spent policy timer id began n (rounds n) (s (n + 1)) := by
  intro s
  induction k with
  | zero => exact .inl underway_dispatched
  | succ k ih =>
      rcases ih with underway | spent
      · have next := underway.round finite (undecided k)
        rw [← course_succ] at next
        exact next.imp_right fun spent => ⟨k, underway.le_wholeSeconds, spent⟩
      · exact .inr spent

theorem course_of_ended {rounds : Nat → Round} {result : Except AnalyticsError CompletedExecution}
    (ended : (s.course policy timer rounds n).poll.phase = .ended result) {m : Nat}
    (later : n ≤ m) :
    s.course policy timer rounds m = s.course policy timer rounds n := by
  induction later with
  | refl => rfl
  | step later ih => rw [course_succ, ih, round_of_ended ended]

/-- A poll with a budget short of the longest duration ends for want of time, if no answer is
decisive. With `n` whole seconds in its budget it asks `n + 1` times at the most. Every question is
about the job, and none comes later than the budget after polling began; every wait lasts a second
or more; the attempts that are reported are the questions; the time that is reported is the time
that has passed, and exceeds the budget by no more than the last answer took. A timer that lets
waits end late may add its grain. -/
theorem ends_within_budget (policy : BackoffPolicy) (timer : Timer) (kind : QueryKind) (id : String)
    (began : Instant) (rounds : Nat → Round) (finite : policy.budget < .longest)
    (undecided : ∀ i, isDecisive (rounds i).answer = false) :
    ∃ n ≤ policy.budget.wholeSeconds, ∃ final, Spent policy timer id began n (rounds n) final ∧
      ∀ m, n < m → (dispatched policy kind id began).course policy timer rounds m = final := by
  obtain underway | ⟨n, few, spent⟩ :=
    underway_or_spent timer kind id began finite undecided (policy.budget.wholeSeconds + 1)
  · exact absurd underway.le_wholeSeconds (Nat.not_succ_le_self _)
  · obtain ⟨elapsed, lastError, -, -, ended⟩ := spent.ended
    exact ⟨n, few, _, spent, fun m later => course_of_ended ended later⟩

/-- A policy without a wait, a factor or a spread, on the clock, with two kinds of answers. -/
theorem ends_within_budget_of_disorder :
    let policy : BackoffPolicy := ⟨.zero, .zero, 0 / 0, .ofSeconds 3, 0 / 0⟩
    let answer (i : Nat) : Except AnalyticsError ExecutionResults :=
      if i % 2 = 0 then .ok ⟨⟨.running, {}⟩, [], {}⟩ else .error (.malformed "no object")
    let rounds (i : Nat) : Round := ⟨.ofMillis (300 * i), answer i, 0.25⟩
    policy.budget < .longest ∧ (∀ i, isDecisive (rounds i).answer = false) ∧
      ∃ n ≤ 3, ∃ final, Spent policy .alarm "job" .zero n (rounds n) final ∧
        ∀ m, n < m →
          (dispatched policy .rfq "job" .zero).course policy .alarm rounds m = final := by
  intro policy answer rounds
  have finite : policy.budget < .longest := by decide
  have undecided (i : Nat) : isDecisive (rounds i).answer = false := by
    simp only [rounds, answer]
    split <;> rfl
  have seconds : policy.budget.wholeSeconds = 3 := by decide
  obtain ⟨n, few, spent⟩ :=
    ends_within_budget policy .alarm .rfq "job" .zero rounds finite undecided
  exact ⟨finite, undecided, n, seconds ▸ few, spent⟩

end Poll.Session

end RebateRelay
