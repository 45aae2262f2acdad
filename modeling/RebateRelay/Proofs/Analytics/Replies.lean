import RebateRelay.Analytics.Service
import RebateRelay.Proofs.Analytics.Session
import RebateRelay.Proofs.Result

/-!
# Polls and the replies that they get

What the service replies may be anything: another status, a body that is no report, a state that
nobody knows, or no reply at all. The client makes a passing failure of each, so that a poll goes on
as long as its budget lasts. Only a reply that says that all went well, with a report of a full
result, completes a poll, and then the rows are those of that report.

What a poll hears after its query has been dispatched is a list of replies, ends of waits and
signals, at moments of any kind. `EndsBy` says which of them may end a poll, and how.
-/

namespace RebateRelay

namespace AnalyticsService

/-! ## What a client makes of a reply -/

/-- A reply with a status of success, the body of which reads as a report. -/
def Reports (response : Http.Response) (report : Report) : Prop :=
  response.status.isSuccess = true ∧
    ∃ text, response.text? = some text ∧ (Json.parse? text >>= Report.ofJson?) = some report

variable {s : AnalyticsSettings} {sender : Http.Sender} {id : String} {e : AnalyticsError}

theorem body_eq_ok {request : Http.Request} {response : Http.Response} {text : String} :
    body request response = .ok text ↔
      response.status.isSuccess = true ∧ response.text? = some text := by
  unfold body
  split
  case h_1 none => simp [none]
  case h_2 found whole =>
    rw [whole]
    split
    case isTrue success => simp [success]
    case isFalse refused => simp [refused]

theorem exchange_eq_ok {what text : String} {request : Except Http.Fault Http.Request}
    (exchanged : exchange sender what request = .ok text) :
    ∃ request response, sender request = some response ∧
      response.status.isSuccess = true ∧ response.text? = some text := by
  simp only [exchange, bind_eq_ok, mapError_eq_ok] at exchanged
  obtain ⟨request, -, response, sent, read⟩ := exchanged
  refine ⟨request, response, ?_, body_eq_ok.mp read⟩
  unfold Http.Request.send at sent
  split at sent
  case h_1 found =>
    cases sent
    exact found
  case h_2 => cases sent

/-- An exchange fails in ways that another attempt may mend. -/
theorem isRetryable_of_exchange {what : String} {request : Except Http.Fault Http.Request}
    (failed : exchange sender what request = .error e) : e.isRetryable = true := by
  simp only [exchange, bind_eq_error, mapError_eq_error] at failed
  obtain ⟨fault, -, rfl⟩ | ⟨request, -, ⟨fault, -, rfl⟩ | ⟨response, -, failed⟩⟩ := failed
  · rfl
  · rfl
  · unfold body at failed
    split at failed
    · cases failed
      rfl
    · split at failed <;> cases failed
      rfl

theorem isRetryable_of_readReport {text : String} (failed : readReport text = .error e) :
    e.isRetryable = true := by
  unfold readReport at failed
  split at failed
  · cases failed
    rfl
  · split at failed <;> cases failed
    rfl

theorem fst_fetch : (fetch s sender id).1 =
    (exchange sender "get execution results" (resultsRequest s id) >>= readReport).map
      Prod.snd := by
  unfold fetch
  cases exchange sender "get execution results" (resultsRequest s id) >>= readReport <;> rfl

/-- Whatever is wrong with a reply, another attempt may mend it. -/
theorem isRetryable_of_fetch (failed : (fetch s sender id).1 = .error e) :
    e.isRetryable = true := by
  rw [fst_fetch, map_eq_error, bind_eq_error] at failed
  obtain failed | ⟨text, -, failed⟩ := failed
  · exact isRetryable_of_exchange failed
  · exact isRetryable_of_readReport failed

/-- The name of a job is never empty. -/
theorem ne_of_execute {kind : QueryKind} (executed : (execute s sender kind).1 = .ok id) :
    id ≠ "" := by
  have read : ∃ text, readExecutionId text = .ok id := by
    unfold execute at executed
    split at executed
    case h_1 found =>
      cases executed
      obtain ⟨text, -, read⟩ := bind_eq_ok.mp found
      exact ⟨text, read⟩
    case h_2 => cases executed
  obtain ⟨text, read⟩ := read
  unfold readExecutionId at read
  split at read
  case h_1 => cases read
  case h_2 => cases read
  case h_3 => cases read
  case h_4 named _ =>
    cases read
    rintro rfl
    exact named rfl

/-- The results of a job come from one reply, which reports them. -/
theorem reports_of_fetch {results : ExecutionResults} (fetched : (fetch s sender id).1 = .ok results) :
    ∃ request response report, sender request = some response ∧ Reports response report ∧
      ExecutionState.parse report.state = .ok results.status.state ∧
      results.rows = report.rows ∧ results.metadata = report.metadata := by
  simp only [fst_fetch, map_eq_ok, bind_eq_ok] at fetched
  obtain ⟨⟨report, _⟩, ⟨text, exchanged, read⟩, rfl⟩ := fetched
  obtain ⟨request, response, sent, success, whole⟩ := exchange_eq_ok exchanged
  refine ⟨request, response, report, sent, ?_⟩
  unfold readReport at read
  split at read
  case h_1 => cases read
  case h_2 found decoded =>
    split at read
    case h_1 => cases read
    case h_2 state known =>
      cases read
      exact ⟨⟨success, text, whole, decoded⟩, known, rfl, rfl⟩

end AnalyticsService

theorem ExecutionState.eq_of_parse_completed {text : String} (read : parse text = .ok .completed) :
    text = "QUERY_STATE_COMPLETED" := by
  unfold parse at read
  split at read
  case h_1 state listed =>
    cases read
    obtain ⟨before, after, names, -⟩ := List.lookup_eq_some_iff.mp listed
    have among : (text, completed) ∈ wireNames := by simp [names]
    simpa [wireNames] using among
  case h_2 => cases read

namespace Poll

open AnalyticsService (Reports)

/-! ## What a poll hears -/

/-- What a poll may hear of once its query is dispatched. -/
inductive Heard where
  /-- The question is replied to, or the connection is closed first. -/
  | reply (response : Option Http.Response) (sample : Float)
  /-- The wait is over. -/
  | woken
  /-- Shutdown was signalled. -/
  | cancelled

/-- A poll that dispatches its query through a sender and has an answer at a moment. -/
def dispatch (s : AnalyticsSettings) (policy : BackoffPolicy) (kind : QueryKind)
    (sender : Http.Sender) (began : Instant) : Poll :=
  ((start kind).step policy began (.executed (AnalyticsService.execute s sender kind).1)).1

/-- The poll after it hears of something at a moment. A reply is read by the client, as one to the
question about the poll's job; without such a question there is none. -/
def hear (s : AnalyticsSettings) (policy : BackoffPolicy) (poll : Poll) (heard : Instant × Heard) :
    Poll :=
  match heard.2 with
  | .reply response sample =>
    match poll.phase with
    | .fetching p =>
      let answer := (AnalyticsService.fetch s (fun _ => response) p.execution.id).1
      (poll.step policy heard.1 (.fetched answer sample)).1
    | _ => poll
  | .woken => (poll.step policy heard.1 .woken).1
  | .cancelled => (poll.step policy heard.1 .cancelled).1

/-- The poll after all that it hears. -/
def hearAll (s : AnalyticsSettings) (policy : BackoffPolicy) (poll : Poll)
    (heard : List (Instant × Heard)) : Poll :=
  heard.foldl (hear s policy) poll

/-- How a poll of a job may end, and what of that it has heard last. -/
inductive EndsBy (id : String) : Heard → Except AnalyticsError CompletedExecution → Prop
  /-- One reply reports a full result, and this is the result of the poll. -/
  | completed {response : Http.Response} {sample : Float} {c : CompletedExecution}
    (report : AnalyticsService.Report) (reports : Reports response report)
    (state : report.state = "QUERY_STATE_COMPLETED") (named : c.execution.id = id)
    (rows : c.rows = report.rows) (metadata : c.metadata = report.metadata) :
    EndsBy id (.reply (some response) sample) (.ok c)
  /-- One reply reports that the job has ended in another way. -/
  | failed {response : Http.Response} {sample : Float} {state : ExecutionState}
    (report : AnalyticsService.Report) (reports : Reports response report)
    (parsed : ExecutionState.parse report.state = .ok state)
    (final : state = .failed ∨ state = .expired) :
    EndsBy id (.reply (some response) sample) (.error (.executionFailed id state.label))
  /-- The next wait goes beyond the budget. -/
  | spent {response : Option Http.Response} {sample : Float} {attempts : Nat} {elapsed : Duration}
    {reason : String} :
    EndsBy id (.reply response sample) (.error (.budgetExhausted id attempts elapsed reason))
  /-- Shutdown was signalled. -/
  | cancelled : EndsBy id .cancelled (.error .cancelled)

/-- The poll has dispatched a job and is not over. -/
def IsUnder (id : String) (poll : Poll) : Prop :=
  (∃ p : Progress, poll.phase = .fetching p ∧ p.execution.id = id) ∨
    ∃ (p : Progress) (wait : Duration), poll.phase = .waiting p wait ∧ p.execution.id = id

variable {s : AnalyticsSettings} {policy : BackoffPolicy} {id : String}

theorem IsUnder.result?_eq_none {poll : Poll} (under : poll.IsUnder id) :
    poll.result? = none := by
  obtain ⟨p, asks, -⟩ | ⟨p, wait, waits, -⟩ := under
  · simp only [result?, asks]
  · simp only [result?, waits]

theorem isUnder_dispatch {kind : QueryKind} {sender : Http.Sender} {began : Instant}
    (executed : (AnalyticsService.execute s sender kind).1 = .ok id) :
    (dispatch s policy kind sender began).IsUnder id := by
  left
  refine ⟨.first policy id kind began, ?_, rfl⟩
  simp only [dispatch, executed, start, step, Phase.step]

/-- A poll that backs off is not over, or its budget is spent. -/
theorem Progress.backOff_cases (p : Progress) (policy : BackoffPolicy) (now : Instant)
    (sample : Float) (reason : AnalyticsError) :
    (∃ wait, (p.backOff policy now sample reason).1 = .waiting p wait) ∨
      ∃ elapsed, (p.backOff policy now sample reason).1 = .ended (.error
        (.budgetExhausted p.execution.id p.attempts elapsed reason.message)) := by
  unfold Progress.backOff
  simp only
  split
  case isTrue => exact Or.inr ⟨_, rfl⟩
  case isFalse => exact Or.inl ⟨_, rfl⟩

/-- What a reply does to a poll that asks: the poll goes on, or it ends by that reply. -/
theorem isUnder_or_endsBy_of_reply {p : Progress} {now : Instant} {sample : Float}
    {response : Option Http.Response} :
    let answer := (AnalyticsService.fetch s (fun _ => response) p.execution.id).1
    let phase := (p.answered policy now sample answer).1
    (∃ (p' : Progress) (wait : Duration), phase = .waiting p' wait ∧
        p'.execution.id = p.execution.id) ∨
      ∃ result, phase = .ended result ∧ EndsBy p.execution.id (.reply response sample) result := by
  intro answer phase
  cases decisive : isDecisive answer with
  | false =>
      have undecided : phase =
          ((p.observed answer).backOff policy now sample (p.reason answer)).1 :=
        Progress.answered_of_undecided decisive
      obtain ⟨wait, waits⟩ | ⟨elapsed, spent⟩ :=
        (p.observed answer).backOff_cases policy now sample (p.reason answer)
      · exact Or.inl ⟨_, wait, undecided.trans waits, Progress.id_observed⟩
      · rw [Progress.id_observed] at spent
        exact Or.inr ⟨_, undecided.trans spent, .spent⟩
  | true =>
      refine Or.inr ⟨p.verdict answer, Progress.answered_of_decisive decisive, ?_⟩
      cases fetched : answer with
      | error e =>
          have passing := AnalyticsService.isRetryable_of_fetch fetched
          rw [fetched] at decisive
          simp [isDecisive, passing] at decisive
      | ok results =>
          obtain ⟨_, reply, report, rfl, reports, state, rows, metadata⟩ :=
            AnalyticsService.reports_of_fetch fetched
          rw [fetched] at decisive
          simp only [isDecisive] at decisive
          cases final : results.status.state with
          | completed =>
              rw [final] at state
              rw [Progress.verdict_of_completed final]
              exact .completed report reports (ExecutionState.eq_of_parse_completed state) rfl rows
                metadata
          | failed =>
              rw [Progress.verdict_of_not_completed (by simp [final])]
              exact .failed report reports state (Or.inl final)
          | expired =>
              rw [Progress.verdict_of_not_completed (by simp [final])]
              exact .failed report reports state (Or.inr final)
          | submitted => simp [final, ExecutionState.isFinal] at decisive
          | running => simp [final, ExecutionState.isFinal] at decisive

/-- Whatever a poll hears of that is under way, it goes on or ends by that. -/
theorem IsUnder.hear {poll : Poll} (under : poll.IsUnder id) (now : Instant) (h : Heard) :
    (poll.hear s policy (now, h)).IsUnder id ∨
      ∃ result, (poll.hear s policy (now, h)).result? = some result ∧ EndsBy id h result := by
  obtain ⟨kind, phase⟩ := poll
  obtain ⟨p, rfl, rfl⟩ | ⟨p, wait, rfl, rfl⟩ := under
  · cases h with
    | reply response sample =>
        obtain ⟨p', wait, waits, named⟩ | ⟨result, ended, cause⟩ :=
          @isUnder_or_endsBy_of_reply s policy p now sample response
        · exact Or.inl (Or.inr ⟨p', wait, waits, named⟩)
        · refine Or.inr ⟨result, ?_, cause⟩
          simp only [Poll.hear, result?, step, Phase.step, ended]
    | woken => exact Or.inl (Or.inl ⟨p, rfl, rfl⟩)
    | cancelled => exact Or.inr ⟨_, rfl, .cancelled⟩
  · cases h with
    | reply response sample => exact Or.inl (Or.inr ⟨p, wait, rfl, rfl⟩)
    | woken => exact Or.inl (Or.inl ⟨_, rfl, rfl⟩)
    | cancelled => exact Or.inr ⟨_, rfl, .cancelled⟩

theorem hear_of_result? {poll : Poll} {result : Except AnalyticsError CompletedExecution}
    (finished : poll.result? = some result) (heard : Instant × Heard) :
    poll.hear s policy heard = poll := by
  obtain ⟨kind, phase⟩ := poll
  obtain ⟨now, h⟩ := heard
  cases phase with
  | ended result => cases h <;> rfl
  | executing => cases finished
  | fetching p => cases finished
  | waiting p wait => cases finished

theorem hearAll_of_result? {poll : Poll} {result : Except AnalyticsError CompletedExecution}
    (finished : poll.result? = some result) (heard : List (Instant × Heard)) :
    poll.hearAll s policy heard = poll := by
  induction heard with
  | nil => rfl
  | cons h heard ih => rw [hearAll, List.foldl_cons, hear_of_result? finished]; exact ih

/-- What ends a poll is one of the things that it hears, and up to that one it is under way. -/
theorem IsUnder.exists_endsBy {poll : Poll} (under : poll.IsUnder id)
    {heard : List (Instant × Heard)} {result : Except AnalyticsError CompletedExecution}
    (finished : (poll.hearAll s policy heard).result? = some result) :
    ∃ before now h after, heard = before ++ (now, h) :: after ∧
      (poll.hearAll s policy before).result? = none ∧ EndsBy id h result := by
  induction heard generalizing poll with
  | nil =>
      rw [hearAll, List.foldl_nil, under.result?_eq_none] at finished
      cases finished
  | cons first heard ih =>
      obtain ⟨now, h⟩ := first
      change ((poll.hear s policy (now, h)).hearAll s policy heard).result? = some result at finished
      obtain still | ⟨ended, shown, cause⟩ := @IsUnder.hear s policy id poll under now h
      · obtain ⟨before, now', h', after, rfl, open', cause⟩ := ih still finished
        exact ⟨(now, h) :: before, now', h', after, rfl, open', cause⟩
      · rw [hearAll_of_result? shown, shown, Option.some.injEq] at finished
        subst finished
        exact ⟨[], now, h, heard, rfl, under.result?_eq_none, cause⟩

/-- Once its query is dispatched, a poll ends only by a reply that reports a full result, by one
that reports the job as failed or expired, when its budget is spent, or when it is cancelled; and no
reply is a failure that another attempt could not mend. -/
theorem ends_by_sound_reply (s : AnalyticsSettings) (policy : BackoffPolicy) (kind : QueryKind)
    (sender : Http.Sender) (began : Instant) {id : String}
    (executed : (AnalyticsService.execute s sender kind).1 = .ok id) :
    id ≠ "" ∧
    (∀ heard result,
      ((dispatch s policy kind sender began).hearAll s policy heard).result? = some result →
      ∃ before now h after, heard = before ++ (now, h) :: after ∧
        ((dispatch s policy kind sender began).hearAll s policy before).result? = none ∧
        EndsBy id h result) ∧
    ∀ sender name e, (AnalyticsService.fetch s sender name).1 = .error e →
      e.isRetryable = true := by
  refine ⟨AnalyticsService.ne_of_execute executed, ?_, ?_⟩
  · intro heard result finished
    exact (isUnder_dispatch executed).exists_endsBy finished
  · intro sender name e failed
    exact AnalyticsService.isRetryable_of_fetch failed

/-- A poll that gets no reply, then rows with a status of failure, and then the rows of a full
result. -/
theorem ends_by_sound_reply_of_disorder :
    let s : AnalyticsSettings := ⟨"http://[::1]/api", "key", "1", "2", .ofSeconds 30⟩
    let sender : Http.Sender := fun _ => some ⟨⟨200⟩, "\x7b\"execution_id\":\"job\"\x7d", true⟩
    let full := "\x7b\"state\":\"QUERY_STATE_COMPLETED\",\"result\":\x7b\"rows\":[]\x7d\x7d"
    let heard : List (Instant × Heard) := [
      (.zero, .reply none 0.5), (⟨30000000000⟩, .woken),
      (⟨30000000000⟩, .reply (some ⟨⟨500⟩, full, true⟩) 0.5), (⟨75000000000⟩, .woken),
      (⟨75000000000⟩, .reply (some ⟨⟨200⟩, full, true⟩) 0.5)]
    let poll := dispatch s {} .bridge sender .zero
    (AnalyticsService.execute s sender .bridge).1 = .ok "job" ∧
      ∃ result, (poll.hearAll s {} heard).result? = some result ∧
        ∃ before now h after, heard = before ++ (now, h) :: after ∧
          (poll.hearAll s {} before).result? = none ∧ EndsBy "job" h result := by
  intro s sender full heard poll
  have executed : (AnalyticsService.execute s sender .bridge).1 = .ok "job" :=
    eq_ok_of_toOption (by decide +kernel)
  have finished : (poll.hearAll s {} heard).result?.isSome = true := by decide +kernel
  obtain ⟨result, finished⟩ := Option.isSome_iff_exists.mp finished
  obtain ⟨-, ends, -⟩ := ends_by_sound_reply s {} .bridge sender .zero executed
  exact ⟨executed, result, finished, ends heard result finished⟩

end Poll

end RebateRelay
