import RebateRelay.Chain.Transaction
import RebateRelay.Error
import RebateRelay.Time.Clock

/-!
# A scripted submitter

The submitter builds what it is given with an identity on some chain, and then refuses it or gives
it the next number, as its script says. A payment that cannot be built uses up no entry of the
script.
-/

namespace RebateRelay.Rehearsal

/-- A call that the submitter has taken, its number, and when it was taken. -/
structure Sent where
  transaction : Chain.Transaction
  nonce : UInt64
  taken : Instant

/-- The submitter. -/
structure Signer where
  /-- The chain of its identity, if it is not the chain asked for. -/
  chain : Option UInt64 := none
  nextNonce : UInt64 := 0
  /-- How long each submission takes. -/
  latency : Duration := .zero
  /-- For each payment that can be built, the reason to refuse it, if any. -/
  refusals : List (Option String) := []

namespace Signer

/-- Takes a payment for a chain at a moment. -/
def submit (s : Signer) (now : Instant) (chainId : UInt64)
    (build : Chain.Transactor → Except ChainError Chain.Transaction) :
    Signer × Except ChainError Sent :=
  match build ⟨s.chain.getD chainId⟩ with
  | .error e => (s, .error e)
  | .ok tx =>
    let s' := { s with refusals := s.refusals.tail }
    match s.refusals.head?.join with
    | some reason => (s', .error (.submit reason))
    | none => ({ s' with nextNonce := s.nextNonce + 1 }, .ok ⟨tx, s.nextNonce, now⟩)

end Signer

end RebateRelay.Rehearsal
