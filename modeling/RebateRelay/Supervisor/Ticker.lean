import RebateRelay.Time.Clock

/-!
# Ticks

A ticker ticks at fixed moments, one period apart. A tick that is seen late is not made up for: the
next one is the first of the fixed moments that is still to come.
-/

namespace RebateRelay

/-- A ticker: its period and its next tick. -/
structure Ticker where
  period : Duration
  next : Instant
  deriving DecidableEq, Repr

namespace Ticker

/-- A tick that is seen no later than this is on time. -/
def tolerance : Duration := .ofMillis 5

/-- The first tick comes at once. -/
def atOnce (period : Duration) (now : Instant) : Ticker := ⟨period, now⟩

/-- The first tick comes after a period. -/
def afterPeriod (period : Duration) (now : Instant) : Ticker := ⟨period, now.after period⟩

/-- When the next tick is seen by someone who looks from a moment on. -/
def seen (t : Ticker) (ready : Instant) : Instant := t.next.later ready

/-- How long ago the last of the fixed moments was. -/
def phase (t : Ticker) (now : Instant) : Nat := (now.since t.next).nanos % t.period.nanos

/-- The ticker after a tick has been seen at a moment. -/
def tick (t : Ticker) (now : Instant) : Ticker :=
  if t.next.after tolerance < now then
    { t with next := ⟨now.nanos + t.period.nanos - t.phase now⟩ }
  else { t with next := t.next.after t.period }

@[simp] theorem period_tick (t : Ticker) (now : Instant) : (t.tick now).period = t.period := by
  unfold tick
  split <;> rfl

end Ticker

end RebateRelay
