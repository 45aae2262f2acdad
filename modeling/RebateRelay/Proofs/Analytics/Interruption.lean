import RebateRelay.Proofs.Analytics.Budget

/-!
# Polls under a signal

A poll dispatches its query, asks, and waits, and all the while shutdown may be signalled. Two
worlds are compared here in which the service answers alike and at the same times: in one of them
the signal is never given, in the other it is given at some moment.

Until that moment the two polls are the same. Then either both are over, or the one that hears the
signal is cancelled at that very moment, whatever it was waiting for. `Follows` is this relation; it
is kept by everything that a poll waits for.
-/

namespace RebateRelay

namespace Poll

/-- The dispatch as the world decides it. -/
structure Dispatch where
  /-- How long the reply takes. -/
  took : Duration
  reply : Except AnalyticsError String

namespace Session

/-- Waits for something that is due at a moment, and hears of it or of the signal. -/
def hear (policy : BackoffPolicy) (signal : Signal) (s : Session) (due : Instant) (input : Input) :
    Session :=
  let (cut, t) := signal.await s.now due
  { s with poll := (s.poll.step policy t (if cut then .cancelled else input)).1, now := t }

/-- Passes the wait before the next attempt, if there is one. -/
def rest (policy : BackoffPolicy) (timer : Timer) (signal : Signal) (s : Session) : Session :=
  match s.poll.phase with
  | .waiting _ wait =>
    { s with waits := s.waits ++ [wait] }.hear policy signal (timer.wake s.now wait) .woken
  | _ => s

/-- What one round makes of a session under a signal. The service is not asked once the signal has
been given. -/
def guarded (policy : BackoffPolicy) (timer : Timer) (signal : Signal) (s : Session) (r : Round) :
    Session :=
  match s.poll.phase with
  | .fetching progress =>
    if signal.isGiven s.now then { s with poll := (s.poll.step policy s.now .cancelled).1 }
    else
      ({ s with fetches := s.fetches ++ [(progress.execution.id, s.now)] }.hear policy signal
        (s.now.after r.took) (.fetched r.answer r.sample)).rest policy timer signal
  | _ => s

/-- A poll that begins at a moment, after its dispatch and so many rounds under a signal. -/
def under (policy : BackoffPolicy) (timer : Timer) (signal : Signal) (kind : QueryKind)
    (began : Instant) (dispatch : Dispatch) (rounds : Nat → Round) : Nat → Session
  | 0 =>
    hear policy signal ⟨start kind, began, [], []⟩ (began.after dispatch.took)
      (.executed dispatch.reply)
  | n + 1 =>
    (under policy timer signal kind began dispatch rounds n).guarded policy timer signal (rounds n)

variable {policy : BackoffPolicy} {timer : Timer} {kind : QueryKind} {signal : Signal}
variable {s free stopped : Session} {t due : Instant} {input : Input} {r : Round} {n : Nat}

theorem le_wake (timer : Timer) (t : Instant) (wait : Duration) : t ≤ timer.wake t wait :=
  Nat.le_trans (Instant.le_after t _) (timer.not_early t wait)

section

variable {result : Except AnalyticsError CompletedExecution}

/-- A poll that is over makes no more of the rounds. -/
theorem guarded_of_ended (ended : s.poll.phase = .ended result) (r : Round) :
    s.guarded policy timer signal r = s := by
  simp only [guarded, ended]

theorem rest_of_ended (ended : s.poll.phase = .ended result) :
    s.rest policy timer signal = s := by
  simp only [rest, ended]

end

/-- Without a signal, what is due is heard of when it is due. -/
theorem hear_never (order : s.now ≤ due) : s.hear policy .never due input =
    { s with poll := (s.poll.step policy due input).1, now := due } := by
  simp only [hear, Signal.await_never order, Bool.false_eq_true, if_false]

/-- Before the signal is given, it makes no difference. -/
theorem hear_givenAt_of_lt (order : s.now ≤ due) (early : due < t) :
    s.hear policy (.givenAt t) due input = s.hear policy .never due input := by
  rw [hear_never order]
  simp only [hear, Signal.await_givenAt_of_lt order early, Bool.false_eq_true, if_false]

/-- A poll that waits for something when the signal is given is cancelled then. -/
theorem hear_givenAt_of_le (before : s.now < t) (late : t ≤ due)
    (goes : s.poll.result? = none) : s.hear policy (.givenAt t) due input =
      { s with poll := ⟨s.poll.kind, .ended (.error .cancelled)⟩, now := t } := by
  simp only [hear, Signal.await_givenAt_of_le before late, if_true]
  cases phase : s.poll.phase <;> simp [result?, phase] at goes <;> simp [step, Phase.step, phase]

/-- A poll under a signal that is given at a moment, beside the same poll without a signal: they are
one until then, or the signal has ended the one, and the other has come to that moment, too. -/
inductive Follows (t : Instant) (free stopped : Session) : Prop
  | together (same : stopped = free) (early : free.now < t)
  | apart (cancelled : stopped.poll.result? = some (.error .cancelled)) (moment : stopped.now = t)
    (late : t ≤ free.now)

/-- Whatever a poll waits for keeps it beside the other. -/
theorem Follows.hear (order : s.now ≤ due) (before : s.now < t) (goes : s.poll.result? = none) :
    Follows t (s.hear policy .never due input) (s.hear policy (.givenAt t) due input) := by
  by_cases early : due < t
  · rw [hear_givenAt_of_lt order early, hear_never order]
    exact .together rfl early
  · have late : t ≤ due := Nat.not_lt.mp early
    rw [hear_givenAt_of_le before late goes, hear_never order]
    exact .apart rfl rfl late

/-- Without a signal, time only runs forward. -/
theorem now_le_rest : s.now ≤ (s.rest policy timer .never).now := by
  unfold rest
  split
  case h_1 progress wait phase =>
    rw [hear_never (le_wake timer _ wait)]
    exact le_wake timer _ wait
  case h_2 => exact Nat.le_refl _

theorem now_le_guarded : s.now ≤ (s.guarded policy timer .never r).now := by
  unfold guarded
  split
  case h_1 progress phase =>
    rw [Signal.isGiven_never, if_neg Bool.false_ne_true, hear_never (Instant.le_after _ _)]
    apply Nat.le_trans (Instant.le_after s.now r.took)
    exact now_le_rest (s := ⟨_, s.now.after r.took, _, _⟩)
  case h_2 => exact Nat.le_refl _

theorem Follows.rest (h : Follows t free stopped) :
    Follows t (free.rest policy timer .never) (stopped.rest policy timer (.givenAt t)) := by
  cases h with
  | together same early =>
      subst same
      cases phase : stopped.poll.phase with
      | executing | fetching | ended =>
          simp only [Session.rest, phase]
          exact .together rfl early
      | waiting progress wait =>
          simp only [Session.rest, phase]
          exact .hear (le_wake timer _ wait) early (by simp [result?, phase])
  | apart cancelled moment late =>
      rw [rest_of_ended (phase_of_result cancelled)]
      exact .apart cancelled moment (Nat.le_trans late now_le_rest)

theorem Follows.guarded (h : Follows t free stopped) (r : Round) :
    Follows t (free.guarded policy timer .never r) (stopped.guarded policy timer (.givenAt t) r) := by
  cases h with
  | together same early =>
      subst same
      cases phase : stopped.poll.phase with
      | executing | waiting | ended =>
          simp only [Session.guarded, phase]
          exact .together rfl early
      | fetching progress =>
          simp only [Session.guarded, phase, Signal.isGiven_never,
            Signal.isGiven_givenAt_of_lt early, Bool.false_eq_true, if_false]
          exact .rest (.hear (Instant.le_after _ _) early (by simp [result?, phase]))
  | apart cancelled moment late =>
      rw [guarded_of_ended (phase_of_result cancelled)]
      exact .apart cancelled moment (Nat.le_trans late now_le_guarded)

section

variable {began : Instant} {dispatch : Dispatch} {rounds : Nat → Round}

end

end Session

end Poll

end RebateRelay
