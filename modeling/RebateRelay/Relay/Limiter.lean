import RebateRelay.Error
import RebateRelay.Time.Clock

/-!
# Tokens at a fixed rate

Payments are spaced by a bucket of tokens. Tokens accrue at a fixed rate up to a limit, and each
payment takes one. Taking may leave the bucket below zero; the taker then waits until its token
would have accrued, so that takers at the same moment are spaced by the rate. A taker that gives up
puts its token back.

The bucket can reckon in any numbers that have the operations of `Reckoning`.
-/

namespace RebateRelay

/-- Numbers that a bucket can reckon in. -/
class Reckoning (α : Type) where
  zero : α
  one : α
  add : α → α → α
  sub : α → α → α
  mul : α → α → α
  div : α → α → α
  le : α → α → Bool
  /-- A duration in seconds. -/
  seconds : Duration → α
  /-- So many seconds as a duration, the longest one if there are too many. -/
  toWait : α → Duration

instance : Reckoning Float where
  zero := 0
  one := 1
  add := (· + ·)
  sub := (· - ·)
  mul := (· * ·)
  div := (· / ·)
  le a b := decide (a ≤ b)
  seconds := Duration.toSeconds
  toWait x := (Duration.ofSeconds? x).getD .longest

/-- How fast tokens accrue and how many there can be. -/
structure Limiter (α : Type) where
  /-- The tokens of a second. -/
  rate : α
  /-- The tokens of a full bucket. -/
  burst : α

/-- The tokens at the moment when they were last counted. -/
structure Bucket (α : Type) where
  tokens : α
  counted : Instant

namespace Limiter

variable {α : Type} [Reckoning α]

open Reckoning

/-- The smaller of two numbers. -/
def lesser (a b : α) : α := if le a b then a else b

/-- A full bucket. -/
def full (l : Limiter α) (now : Instant) : Bucket α := ⟨l.burst, now⟩

/-- The tokens at a later moment. -/
def accrued (l : Limiter α) (b : Bucket α) (now : Instant) : α :=
  lesser (add b.tokens (mul (seconds (now.since b.counted)) l.rate)) l.burst

/-- Takes a token, and says how long to wait for it. -/
def reserve (l : Limiter α) (b : Bucket α) (now : Instant) : Bucket α × Duration :=
  let tokens := sub (l.accrued b now) one
  let wait := if le zero tokens then .zero else toWait (div (sub zero tokens) l.rate)
  (⟨tokens, now⟩, wait)

/-- Puts a token back. -/
def refund (l : Limiter α) (b : Bucket α) : Bucket α :=
  { b with tokens := lesser (add b.tokens one) l.burst }

end Limiter

/-- A rate that makes sense is taken as it is; any other stands for one token an hour. -/
def Limiter.effectiveRate (perSecond : Float) : Float :=
  if perSecond.isFinite && decide (0 < perSecond) then perSecond else 1 / 3600

/-- The limiter for a rate and a burst, which is at least one. -/
def Limiter.ofRate (perSecond : Float) (burst : UInt32) : Limiter Float where
  rate := effectiveRate perSecond
  burst := Float.ofNat (max burst.toNat 1)

/-- An attempt to take a token. -/
inductive Attempt where
  /-- The token is there. -/
  | granted
  /-- The signal was given first; there was nothing to put back. -/
  | refused
  /-- The token is reserved and will be there after a wait. -/
  | waiting (wait : Duration)

namespace Limiter

variable {α : Type} [Reckoning α]

/-- Begins to take a token at a moment. -/
def attempt (l : Limiter α) (b : Bucket α) (now : Instant) (signal : Signal) :
    Bucket α × Attempt :=
  if signal.isGiven now then (b, .refused)
  else
    let (b, wait) := l.reserve b now
    (b, if wait = .zero then .granted else .waiting wait)

/-- Sees an attempt of a given moment through: the bucket, the outcome, and when it was known. -/
def finish (l : Limiter α) (b : Bucket α) (now : Instant) (signal : Signal) :
    Attempt → Bucket α × Except RelayError Unit × Instant
  | .granted => (b, .ok (), now)
  | .refused => (b, .error .cancelled, now)
  | .waiting wait =>
    match signal.sleep now wait with
    | (true, t) => (l.refund b, .error .cancelled, t)
    | (false, t) => (b, .ok (), t)

end Limiter

end RebateRelay
