import Mathlib.Data.List.Induction
import RebateRelay.Proofs.Analytics.Backoff
import RebateRelay.Proofs.Analytics.Session

/-!
# The first decisive answer decides

A poll goes on until an answer is decisive, and then its result is made of that answer alone, but
for the times that earlier answers have given. What the other answers are does not matter: with the
same durations, two polls ask at the same moments and come to the same result, as long as waits are
not spread.
-/

namespace RebateRelay

namespace Poll

/-- The times that the answer of a round gives. A failure gives none. -/
def Round.times (r : Round) : ExecutionTimes :=
  match r.answer with
  | .ok results => results.status.times
  | .error _ => {}

/-- The time of one kind that was given last, if any. -/
def lastGiven (time : ExecutionTimes → Option Timestamp) (rounds : List Round) : Option Timestamp :=
  rounds.reverse.findSome? fun r => time r.times

/-- The times of a job, each as it was given last. -/
def timesGiven (rounds : List Round) : ExecutionTimes where
  submittedAt := lastGiven (·.submittedAt) rounds
  expiresAt := lastGiven (·.expiresAt) rounds
  startedAt := lastGiven (·.startedAt) rounds
  endedAt := lastGiven (·.endedAt) rounds

theorem lastGiven_concat (time : ExecutionTimes → Option Timestamp) (rounds : List Round)
    (r : Round) : lastGiven time (rounds ++ [r]) = (time r.times).or (lastGiven time rounds) := by
  rw [lastGiven, List.reverse_append, List.reverse_singleton, List.singleton_append,
    List.findSome?_cons]
  cases time r.times <;> rfl

theorem timesGiven_concat (rounds : List Round) (r : Round) :
    timesGiven (rounds ++ [r]) = (timesGiven rounds).update r.times := by
  simp only [timesGiven, lastGiven_concat, ExecutionTimes.update]

/-- A result without the times of its job and without the text of its last failure. -/
def outline : Except AnalyticsError CompletedExecution → Except AnalyticsError CompletedExecution
  | .ok completed => .ok { completed with execution := { completed.execution with times := {} } }
  | .error (.budgetExhausted id attempts elapsed _) =>
    .error (.budgetExhausted id attempts elapsed "")
  | .error e => .error e

/-- Two rounds that may stand for each other: their answers take the same time, and are the same
unless neither is decisive. -/
structure Round.Alike (r r' : Round) : Prop where
  took : r.took = r'.took
  answer : r.answer = r'.answer ∨ isDecisive r.answer = false ∧ isDecisive r'.answer = false

namespace Progress

variable {p p' : Progress} {policy : BackoffPolicy}

/-- The progress after rounds that led to waits. -/
def follow (policy : BackoffPolicy) (p : Progress) (rounds : List Round) : Progress :=
  rounds.foldl (fun p r => (p.observed r.answer).next policy) p

theorem times_observed (p : Progress) (r : Round) :
    (p.observed r.answer).execution.times = p.execution.times.update r.times := by
  unfold Round.times
  cases r.answer <;> rfl

theorem follow_concat (rounds : List Round) (r : Round) :
    p.follow policy (rounds ++ [r]) = ((p.follow policy rounds).observed r.answer).next policy := by
  simp [follow]

@[simp] theorem id_follow (rounds : List Round) :
    (p.follow policy rounds).execution.id = p.execution.id := by
  induction rounds using List.reverseRecOn with
  | nil => rfl
  | append_singleton rounds r ih => simp [follow_concat, next, ih]

@[simp] theorem kind_follow (rounds : List Round) :
    (p.follow policy rounds).execution.kind = p.execution.kind := by
  induction rounds using List.reverseRecOn with
  | nil => rfl
  | append_singleton rounds r ih => simp [follow_concat, next, ih]

theorem times_follow (fresh : p.execution.times = {}) (rounds : List Round) :
    (p.follow policy rounds).execution.times = timesGiven rounds := by
  induction rounds using List.reverseRecOn with
  | nil => exact fresh
  | append_singleton rounds r ih =>
      rw [follow_concat, timesGiven_concat, ← ih]
      exact times_observed _ r

/-- The job as it stands after rounds that led to waits and one more answer. -/
theorem observe_follow (fresh : p.execution.times = {}) {rounds : List Round} {r : Round}
    {results : ExecutionResults} (answer : r.answer = .ok results) :
    (p.follow policy rounds).execution.observe results.status =
      ⟨p.execution.id, p.execution.kind, results.status.state, timesGiven (rounds ++ [r])⟩ := by
  have given : r.times = results.status.times := by simp only [Round.times, answer]
  rw [timesGiven_concat, ← times_follow fresh, given, Execution.observe, id_follow, kind_follow]

theorem attempts_follow (first : p.attempts = 1) (rounds : List Round) :
    (p.follow policy rounds).attempts = min (rounds.length + 1) maxAttempts := by
  induction rounds using List.reverseRecOn with
  | nil => exact first
  | append_singleton rounds r ih =>
      simp only [follow_concat, next, attempts_observed, ih, List.length_append,
        List.length_singleton]
      generalize maxAttempts = most
      omega

/-- Two polls that have come equally far with jobs of one name. -/
structure Alike (p p' : Progress) : Prop where
  id : p.execution.id = p'.execution.id
  kind : p.execution.kind = p'.execution.kind
  started : p.started = p'.started
  interval : p.interval = p'.interval
  attempts : p.attempts = p'.attempts

theorem Alike.next_observed (alike : p.Alike p')
    (answer answer' : Except AnalyticsError ExecutionResults) :
    ((p.observed answer).next policy).Alike ((p'.observed answer').next policy) where
  id := by simp [next, alike.id]
  kind := by simp [next, alike.kind]
  started := by simp [next, alike.started]
  interval := by simp [next, alike.interval]
  attempts := by simp [next, alike.attempts]

theorem Alike.outline_verdict (alike : p.Alike p')
    (answer : Except AnalyticsError ExecutionResults) :
    outline (p.verdict answer) = outline (p'.verdict answer) := by
  cases answer with
  | error e => rfl
  | ok results =>
      simp only [verdict]
      cases results.status.state <;>
        simp [outline, Execution.observe, alike.id, alike.kind, alike.attempts]

end Progress

namespace Session

variable {policy : BackoffPolicy} {timer : Timer} {kind : QueryKind} {p p' : Progress}
variable {now began : Instant} {fetches : List (String × Instant)} {waits : List Duration}
variable {r r' : Round} {s s' : Session}

instance (now : Instant) (wait : Duration) : Decidable (Fits policy began now wait) :=
  inferInstanceAs (Decidable (_ ≤ _))

/-- The waits that follow the answers of some rounds all fit into the budget. The first question is
asked now, and the interval is the wait before jitter that follows it. -/
def AllFit (policy : BackoffPolicy) (timer : Timer) (began : Instant) :
    Instant → Duration → List Round → Prop
  | _, _, [] => True
  | now, interval, r :: rounds =>
    let heard := now.after r.took
    let wait := policy.jitter interval r.sample
    Fits policy began heard wait ∧
      AllFit policy timer began (timer.wake heard wait) (policy.next interval) rounds

instance AllFit.decidable : (now : Instant) → (interval : Duration) → (rounds : List Round) →
    Decidable (AllFit policy timer began now interval rounds)
  | _, _, [] => .isTrue trivial
  | _, _, _ :: rounds => @instDecidableAnd _ _ inferInstance (decidable _ _ rounds)

/-- A poll without a decisive answer goes on as long as its waits fit. -/
theorem result?_run_eq_none_iff {rounds : List Round}
    (undecided : ∀ r ∈ rounds, isDecisive r.answer = false) :
    ((asking kind p now fetches waits).run policy timer rounds).poll.result? = none ↔
      AllFit policy timer p.started now p.interval rounds := by
  induction rounds generalizing p now fetches waits with
  | nil => exact ⟨fun _ => trivial, fun _ => rfl⟩
  | cons r rounds ih =>
      have first := undecided r List.mem_cons_self
      have later : ∀ r ∈ rounds, isDecisive r.answer = false :=
        fun r inside => undecided r (List.mem_cons_of_mem _ inside)
      rw [run, List.foldl_cons]
      by_cases fits : Fits policy p.started (now.after r.took) (policy.jitter p.interval r.sample)
      · rw [round_of_fits first fits]
        refine (ih later).trans ?_
        simp [AllFit, fits, Progress.next]
      · rw [round_of_not_fits first fits]
        refine iff_of_false (fun goes => ?_) fun all => fits all.1
        rw [← run, run_of_ended rfl] at goes
        cases goes

/-- Rounds without a decisive answer, as far as the budget goes, and one with a decisive answer:
each asks about the job, and the last ends the poll. -/
theorem run_of_decisive (p : Progress) {before : List Round} {last : Round} (rest : List Round)
    (undecided : ∀ r ∈ before, isDecisive r.answer = false)
    (decisive : isDecisive last.answer = true)
    (fits : AllFit policy timer p.started now p.interval before) :
    ∃ now' fetches' waits', fetches'.length = before.length + 1 ∧
      (∀ fetch ∈ fetches', fetch.1 = p.execution.id) ∧
      (asking kind p now fetches waits).run policy timer (before ++ last :: rest) =
        ⟨⟨kind, .ended ((p.follow policy before).verdict last.answer)⟩, now', fetches ++ fetches',
          waits'⟩ := by
  induction before generalizing p now fetches waits with
  | nil =>
      refine ⟨now.after last.took, [(p.execution.id, now)], waits, rfl, by simp, ?_⟩
      rw [List.nil_append, run, List.foldl_cons, round_of_decisive decisive]
      exact run_of_ended rfl rest
  | cons r before ih =>
      have fit := fits.1
      obtain ⟨now', fetches', waits', count, same, ended⟩ :=
        @ih (timer.wake (now.after r.took) (policy.jitter p.interval r.sample))
          (fetches ++ [(p.execution.id, now)]) (waits ++ [policy.jitter p.interval r.sample])
          ((p.observed r.answer).next policy)
          (fun r inside => undecided r (List.mem_cons_of_mem _ inside))
          (by simpa [Progress.next] using fits.2)
      refine ⟨now', (p.execution.id, now) :: fetches', waits', by simp [count], ?_, ?_⟩
      · intro fetch inside
        rcases List.mem_cons.mp inside with rfl | later
        · rfl
        · simpa [Progress.next] using same fetch later
      · rw [List.cons_append, run, List.foldl_cons,
          round_of_fits (undecided r List.mem_cons_self) fit]
        exact ended.trans (by rw [List.append_assoc]; rfl)

/-- Two sessions that have asked and waited alike, and are equally far or have ended alike. -/
inductive Alike : Session → Session → Prop
  | asks {kind : QueryKind} {p p' : Progress} {now : Instant} {fetches : List (String × Instant)}
      {waits : List Duration} : p.Alike p' →
      Alike (asking kind p now fetches waits) (asking kind p' now fetches waits)
  | ended {kind : QueryKind} {result result' : Except AnalyticsError CompletedExecution}
      {now : Instant} {fetches : List (String × Instant)} {waits : List Duration} :
      outline result = outline result' →
      Alike ⟨⟨kind, .ended result⟩, now, fetches, waits⟩
        ⟨⟨kind, .ended result'⟩, now, fetches, waits⟩

/-- Rounds that may stand for each other do the same to sessions that are alike. -/
theorem Alike.round (steady : policy.IsSteady) (alike : s.Alike s') (same : r.Alike r') :
    (s.round policy timer r).Alike (s'.round policy timer r') := by
  cases alike with
  | ended outlines =>
      rw [round_of_ended rfl, round_of_ended rfl]
      exact .ended outlines
  | @asks kind p p' now fetches waits progress =>
      cases decisive : isDecisive r.answer with
      | true =>
          have answer : r.answer = r'.answer := same.answer.resolve_right fun neither => by
            simp [decisive] at neither
          rw [round_of_decisive decisive, round_of_decisive (answer ▸ decisive), same.took,
            progress.id, ← answer]
          exact .ended (progress.outline_verdict r.answer)
      | false =>
          have decisive' : isDecisive r'.answer = false := by
            rcases same.answer with answer | neither
            · exact answer ▸ decisive
            · exact neither.2
          have wait : policy.jitter p.interval r.sample = policy.jitter p'.interval r'.sample := by
            rw [progress.interval]
            exact steady.jitter_eq _ _ _
          have budget :
              Fits policy p.started (now.after r.took) (policy.jitter p.interval r.sample) ↔
                Fits policy p'.started (now.after r'.took)
                  (policy.jitter p'.interval r'.sample) := by
            rw [progress.started, same.took, wait]
          by_cases fits :
              Fits policy p.started (now.after r.took) (policy.jitter p.interval r.sample)
          · rw [round_of_fits decisive fits, round_of_fits decisive' (budget.mp fits), wait,
              same.took, progress.id]
            exact .asks (progress.next_observed _ _)
          · rw [round_of_not_fits decisive fits, round_of_not_fits decisive' (budget.not.mp fits),
              same.took, progress.id, progress.started, progress.attempts]
            exact .ended rfl

theorem Alike.run (steady : policy.IsSteady) (alike : s.Alike s') {rounds rounds' : List Round}
    (same : List.Forall₂ Round.Alike rounds rounds') :
    (s.run policy timer rounds).Alike (s'.run policy timer rounds') := by
  induction same generalizing s s' with
  | nil => exact alike
  | cons first _ ih => exact ih (alike.round steady first)

theorem Alike.fetches_eq (alike : s.Alike s') : s.fetches = s'.fetches := by
  cases alike <;> rfl

theorem Alike.now_eq (alike : s.Alike s') : s.now = s'.now := by
  cases alike <;> rfl

theorem Alike.outline_result? (alike : s.Alike s') :
    s.poll.result?.map outline = s'.poll.result?.map outline := by
  cases alike with
  | asks => rfl
  | ended outlines => exact congrArg Option.some outlines

/-- The first decisive answer decides. Without one a poll goes on just as long as its waits fit into
the budget. If those before the first decisive answer do, the poll asks until then and no more, each
time about the job that was dispatched. A completed job gives the rows and the figures of that
answer, the number of questions (as far as they are counted), and each of its times as it was given
last; another final state is reported with the name of the job; a failure is passed on. With a
policy that does not spread its waits, rounds may be replaced by rounds of the same duration that
are not decisive either: the questions and the moments at which they are asked stay the same, and so
does the result, but for the times of the job and the text of the last failure. -/
theorem first_decisive_answer_decides (policy : BackoffPolicy) (timer : Timer) (kind : QueryKind)
    (id : String) (began : Instant) :
    (∀ before, (∀ r ∈ before, isDecisive r.answer = false) →
      (((dispatched policy kind id began).run policy timer before).poll.result? = none ↔
        AllFit policy timer began began policy.first before)) ∧
    (∀ before last rest, (∀ r ∈ before, isDecisive r.answer = false) →
      isDecisive last.answer = true → AllFit policy timer began began policy.first before →
      let final := (dispatched policy kind id began).run policy timer (before ++ last :: rest)
      final.fetches.length = before.length + 1 ∧ (∀ fetch ∈ final.fetches, fetch.1 = id) ∧
      (∀ results, last.answer = .ok results → results.status.state = .completed →
        final.poll.result? = some (.ok ⟨⟨id, kind, .completed, timesGiven (before ++ [last])⟩,
          results.rows, results.metadata, min (before.length + 1) maxAttempts⟩)) ∧
      (∀ results, last.answer = .ok results → results.status.state ≠ .completed →
        final.poll.result? = some (.error (.executionFailed id results.status.state.label))) ∧
      ∀ e, last.answer = .error e → final.poll.result? = some (.error e)) ∧
    (policy.IsSteady → ∀ rounds rounds', List.Forall₂ Round.Alike rounds rounds' →
      let final := (dispatched policy kind id began).run policy timer rounds
      let final' := (dispatched policy kind id began).run policy timer rounds'
      final.fetches = final'.fetches ∧ final.now = final'.now ∧
        final.poll.result?.map outline = final'.poll.result?.map outline) := by
  refine ⟨fun before => result?_run_eq_none_iff, ?_, fun steady rounds rounds' same => ?_⟩
  · intro before last rest undecided decisive fits final
    let p := Progress.first policy id kind began
    obtain ⟨now, fetches, waits, count, same, ended⟩ :=
      run_of_decisive p rest undecided decisive fits
    have ended : final = _ := ended
    have result : final.poll.result? = some ((p.follow policy before).verdict last.answer) := by
      rw [ended]
      rfl
    refine ⟨by rw [ended]; exact count, by rw [ended]; exact same, ?completed, ?other, ?failure⟩
    case completed =>
      intro results answer completed
      rw [result, answer, Progress.verdict_of_completed completed, Progress.attempts_follow rfl,
        Progress.observe_follow rfl answer, completed]
      rfl
    case other =>
      intro results answer other
      rw [result, answer, Progress.verdict_of_not_completed other, Progress.id_follow]
      rfl
    case failure =>
      intro e answer
      rw [result, answer]
      rfl
  · have alike : (dispatched policy kind id began).Alike (dispatched policy kind id began) :=
      .asks ⟨rfl, rfl, rfl, rfl, rfl⟩
    have after : ((dispatched policy kind id began).run policy timer rounds).Alike _ :=
      alike.run steady same
    exact ⟨after.fetches_eq, after.now_eq, after.outline_result?⟩

/-- A poll that hears of a job that is running, then of a failure, and then that the job has
completed; and one that hears of a failure first, and then that the job is waiting. -/
theorem first_decisive_answer_decides_of_two :
    let policy : BackoffPolicy := ⟨.ofSeconds 30, .ofSeconds 60, 1.5, .ofSeconds 300, 0⟩
    let running : ExecutionResults :=
      ⟨⟨.running, ⟨some ⟨100, 0⟩, none, some ⟨160, 0⟩, none⟩⟩, [], {}⟩
    let waiting : ExecutionResults := ⟨⟨.submitted, ⟨some ⟨90, 0⟩, none, none, none⟩⟩, [], {}⟩
    let completed : ExecutionResults := ⟨⟨.completed, ⟨none, none, some ⟨165, 0⟩, none⟩⟩, [], {}⟩
    let before : List Round :=
      [⟨.ofSeconds 2, .ok running, 0.25⟩, ⟨.ofMillis 700, .error (.requestFailed "reset"), 0.75⟩]
    let before' : List Round :=
      [⟨.ofSeconds 2, .error (.malformed "no object"), 0.5⟩, ⟨.ofMillis 700, .ok waiting, 0.125⟩]
    let last : Round := ⟨.ofSeconds 1, .ok completed, 0.5⟩
    let start := dispatched policy .bridge "job" .zero
    policy.IsSteady ∧ (∀ r ∈ before, isDecisive r.answer = false) ∧
      isDecisive last.answer = true ∧ AllFit policy .alarm .zero .zero policy.first before ∧
      List.Forall₂ Round.Alike (before ++ [last]) (before' ++ [last]) ∧
      (start.run policy .alarm (before ++ [last])).poll.result? =
        some (.ok ⟨⟨"job", .bridge, .completed, ⟨some ⟨100, 0⟩, none, some ⟨165, 0⟩, none⟩⟩, [], {},
          3⟩) ∧
      (start.run policy .alarm (before ++ [last])).fetches =
        (start.run policy .alarm (before' ++ [last])).fetches := by
  intro policy running waiting completed before before' last start
  have steady : policy.IsSteady := by decide +kernel
  have undecided : ∀ r ∈ before, isDecisive r.answer = false := by
    intro r inside
    simp only [before, List.mem_cons, List.not_mem_nil, or_false] at inside
    rcases inside with rfl | rfl <;> rfl
  have fits : AllFit policy .alarm .zero .zero policy.first before := by decide +kernel
  have same : List.Forall₂ Round.Alike (before ++ [last]) (before' ++ [last]) :=
    .cons ⟨rfl, .inr ⟨rfl, rfl⟩⟩ (.cons ⟨rfl, .inr ⟨rfl, rfl⟩⟩ (.cons ⟨rfl, .inl rfl⟩ .nil))
  obtain ⟨-, decides, replaced⟩ :=
    first_decisive_answer_decides policy .alarm .bridge "job" .zero
  obtain ⟨-, -, result, -⟩ := decides before last [] undecided rfl fits
  exact ⟨steady, undecided, rfl, fits, same, result completed rfl rfl,
    (replaced steady _ _ same).1⟩

end Session

end Poll

end RebateRelay
