import RebateRelay.Time.Duration

/-!
# Waiting longer each time

Between two attempts the poller waits, each time longer by a factor and with some jitter, until a
budget is spent. Policies may be out of order: a factor below one or no number at all counts as
one, and no wait is shorter than a second.
-/

namespace RebateRelay

/-- How long to wait between attempts, and for how long in all. -/
structure BackoffPolicy where
  /-- The wait after the first attempt. -/
  initial : Duration := .ofSeconds 30
  /-- The bound on the wait before jitter. -/
  longest : Duration := .ofSeconds 60
  /-- The factor from one wait to the next. -/
  multiplier : Float := 1.5
  /-- No wait may end later than this after polling began. -/
  budget : Duration := .ofSeconds 300
  /-- The part of a wait by which jitter may shorten or lengthen it. -/
  randomization : Float := 0.5

namespace BackoffPolicy

/-- The shortest wait. -/
def shortest : Duration := .ofSeconds 1

/-- The smaller of two numbers. -/
def lesser (a b : Float) : Float := if b < a then b else a

/-- A number cut to the range from zero to one. -/
def clampUnit (x : Float) : Float := if x < 0 then 0 else if 1 < x then 1 else x

/-- The factor in effect. -/
def factor (p : BackoffPolicy) : Float :=
  if p.multiplier.isFinite && decide (1 ≤ p.multiplier) then p.multiplier else 1

/-- The wait that follows a wait. -/
def next (p : BackoffPolicy) (current : Duration) : Duration :=
  let seconds := lesser (current.toSeconds * p.factor) p.longest.toSeconds
  ((Duration.ofSeconds? seconds).getD p.longest).max shortest

/-- The first wait. -/
def first (p : BackoffPolicy) : Duration := (p.initial.min p.longest).max shortest

/-- A wait with jitter. A sample of a half leaves it as it is; samples towards zero shorten it and
samples towards one lengthen it. -/
def jitter (p : BackoffPolicy) (wait : Duration) (sample : Float) : Duration :=
  let part := if p.randomization.isFinite then clampUnit p.randomization else 0
  let sample := if sample.isFinite then clampUnit sample else 0.5
  let base := wait.toSeconds
  let delta := base * part
  let picked := (base - delta) + sample * 2 * delta
  ((Duration.ofSeconds? picked).getD wait).max shortest

theorem shortest_le_next (p : BackoffPolicy) (current : Duration) : shortest ≤ p.next current :=
  Duration.le_max_right _ _

theorem shortest_le_first (p : BackoffPolicy) : shortest ≤ p.first :=
  Duration.le_max_right _ _

theorem shortest_le_jitter (p : BackoffPolicy) (wait : Duration) (sample : Float) :
    shortest ≤ p.jitter wait sample :=
  Duration.le_max_right _ _

end BackoffPolicy

end RebateRelay
