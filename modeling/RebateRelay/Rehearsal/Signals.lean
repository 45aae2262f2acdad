import RebateRelay.Time.Clock

/-!
# Rehearsing shutdown signals

Several signals on one clock. A signal can be given now or later, slept on, or waited for; the
clock moves only when something waits.
-/

namespace RebateRelay.Rehearsal

/-- Two signals and the clock. -/
structure Signals where
  now : Instant := .zero
  first : Signal := .never
  second : Signal := .never

/-- Which of the two signals. -/
inductive Line where
  | first
  | second
  deriving DecidableEq, Repr

namespace Signals

/-- The signal on a line. -/
def get (s : Signals) : Line → Signal
  | .first => s.first
  | .second => s.second

/-- Changes the signal on a line. -/
def modify (s : Signals) (line : Line) (f : Signal → Signal) : Signals :=
  match line with
  | .first => { s with first := f s.first }
  | .second => { s with second := f s.second }

/-- The signal on a line has been given. -/
def isGiven (s : Signals) (line : Line) : Bool := (s.get line).isGiven s.now

/-- Gives a signal now. -/
def give (s : Signals) (line : Line) : Signals := s.modify line (·.give s.now)

/-- Sets an alarm that gives a signal. -/
def giveAfter (s : Signals) (line : Line) (d : Duration) : Signals :=
  s.modify line (·.give (s.now.alarm d))

/-- Sleeps on a signal: whether it came first. -/
def sleep (s : Signals) (line : Line) (d : Duration) : Signals × Bool :=
  let (cut, t) := (s.get line).sleep s.now d
  ({ s with now := t }, cut)

/-- Waits for a signal that is given sooner or later. -/
def await (s : Signals) (line : Line) : Signals :=
  { s with now := ((s.get line).given.getD s.now).later s.now }

end Signals

end RebateRelay.Rehearsal
