import RebateRelay.Relay.Limiter

/-!
# Rehearsing the limiter

One bucket and a clock. Tokens are taken one after the other or several at the same moment, each
attempt under a signal of its own.
-/

namespace RebateRelay.Rehearsal

/-- A limiter, its bucket and the clock. -/
structure Tokens where
  limiter : Limiter Float
  bucket : Bucket Float
  now : Instant

/-- How an attempt ended, and when. -/
structure Taken where
  outcome : Except RelayError Unit
  ended : Instant

namespace Tokens

/-- A full bucket at the start of the clock. -/
def start (limiter : Limiter Float) : Tokens := ⟨limiter, limiter.full .zero, .zero⟩

/-- Begins one attempt under each signal, all at the same moment. -/
def beginTogether (s : Tokens) (signals : List Signal) : Bucket Float × List (Signal × Attempt) :=
  signals.foldl (fun (bucket, attempts) signal =>
    let (bucket, attempt) := s.limiter.attempt bucket s.now signal
    (bucket, attempts ++ [(signal, attempt)])) (s.bucket, [])

/-- Takes one token under each signal, all at the same moment, and waits for all of them. -/
def takeTogether (s : Tokens) (signals : List Signal) : Tokens × List Taken :=
  let (bucket, attempts) := s.beginTogether signals
  attempts.foldl (fun (s', taken) (signal, attempt) =>
    let (bucket, outcome, t) := s.limiter.finish s'.bucket s.now signal attempt
    ({ s' with bucket, now := s'.now.later t }, taken ++ [⟨outcome, t⟩])) ({ s with bucket }, [])

/-- Takes one token. -/
def take (s : Tokens) (signal : Signal) : Tokens × Except RelayError Unit :=
  match s.takeTogether [signal] with
  | (s, [taken]) => (s, taken.outcome)
  | (s, _) => (s, .ok ())

/-- Lets time pass. -/
def rest (s : Tokens) (d : Duration) : Tokens := { s with now := s.now.alarm d }

end Tokens

end RebateRelay.Rehearsal
