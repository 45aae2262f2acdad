import RebateRelay.Text.Quoted
import RebateRelay.Number.FloatText
import RebateRelay.Time.Duration

/-!
# What can go wrong

One type of cause for each neighbour of the relay, and one that collects them. A cause carries what
is known about it; `message` puts it into words. Some causes are passing and worth another attempt,
and the two cancellations are no failures at all.
-/

namespace RebateRelay

/-- Failures of the analytics service or of a job on it. -/
inductive AnalyticsError where
  /-- The request did not get through, or was refused. -/
  | requestFailed (reason : String)
  /-- The job has not ended yet. -/
  | notReady (executionId state : String)
  /-- The answer does not have the expected shape. -/
  | malformed (reason : String)
  /-- The job ended without a result. -/
  | executionFailed (executionId state : String)
  /-- The time for polling ran out. -/
  | budgetExhausted (executionId : String) (attempts : Nat) (elapsed : Duration)
      (lastError : String)
  /-- Shutdown was signalled during the poll. -/
  | cancelled

namespace AnalyticsError

/-- The wording of a failure. -/
def message : AnalyticsError → String
  | requestFailed reason => "analytics request failed: " ++ reason
  | notReady id state => "execution " ++ id ++ " not ready (state " ++ state ++ ")"
  | malformed reason => "malformed analytics response: " ++ reason
  | executionFailed id state => "execution " ++ id ++ " ended in state " ++ state
  | budgetExhausted id attempts elapsed lastError =>
    "execution " ++ id ++ " not complete after " ++ toString attempts ++ " attempts in " ++
      elapsed.text ++ ": " ++ lastError
  | cancelled => "analytics poll cancelled"

/-- The same request may succeed when it is made again. -/
def isRetryable : AnalyticsError → Bool
  | requestFailed _ | notReady .. | malformed _ => true
  | executionFailed .. | budgetExhausted .. | cancelled => false

end AnalyticsError

/-- Failures to compute a payout. -/
inductive RebateError where
  /-- The direction has no chain. -/
  | unknownDirection (direction : String)
  /-- The rate table has nothing for the module on the chain. -/
  | moduleMissing (chainId : UInt64) (module : String)
  /-- The rate table knows the module but not the token. -/
  | tokenMissing (chainId : UInt64) (module token : String)
  /-- The price of the payout token is not a positive number. -/
  | invalidPrice (price : Float)
  /-- An input has no decimal, or a step has no result in range. -/
  | outOfRange (what : String)

/-- The wording of a failure. -/
def RebateError.message : RebateError → String
  | unknownDirection direction => "unknown direction " ++ Text.quote direction
  | moduleMissing chainId module =>
    "module configuration not found for module " ++ module ++ " on chain " ++ toString chainId
  | tokenMissing chainId module token =>
    "token configuration not found for token " ++ token ++ " in module " ++ module ++
      " on chain " ++ toString chainId
  | invalidPrice price => "invalid reference price " ++ Number.plain price
  | outOfRange what => "rebate arithmetic out of range: " ++ what

/-- Failures of the record store. -/
inductive StoreError where
  /-- No unpaid record has the hash; nothing was changed. -/
  | notUpdated (hash : String)
  /-- What is stored does not make a record. -/
  | corruptRow (hash reason : String)
  deriving DecidableEq, Repr

/-- The wording of a failure. -/
def StoreError.message : StoreError → String
  | notUpdated hash => "no unrebated record with hash " ++ hash
  | corruptRow hash reason => "corrupt row for hash " ++ hash ++ ": " ++ reason

/-- Failures on the way to a chain. -/
inductive ChainError where
  /-- No endpoint is configured for the chain. -/
  | clientUnavailable (chainId : UInt64)
  /-- A text is not an address. -/
  | invalidAddress (text : String)
  /-- The transaction could not be put together. -/
  | build (reason : String)
  /-- The transaction was refused. -/
  | submit (reason : String)
  /-- The submitter did not come up. -/
  | start (reason : String)
  deriving DecidableEq, Repr

/-- The wording of a failure. -/
def ChainError.message : ChainError → String
  | clientUnavailable chainId => "no rpc client configured for chain " ++ toString chainId
  | invalidAddress text => "invalid address " ++ Text.quote text
  | build reason => "could not build transaction: " ++ reason
  | submit reason => "could not submit transaction: " ++ reason
  | start reason => "submitter failed to start: " ++ reason

/-- Settings that are missing or make no sense. -/
inductive ConfigError where
  /-- A required setting is absent. -/
  | missing (key : String)
  /-- A setting has a value that cannot be used. -/
  | invalid (key reason : String)
  deriving DecidableEq, Repr

/-- The wording of a failure. -/
def ConfigError.message : ConfigError → String
  | missing key => "missing required configuration " ++ key
  | invalid key reason => "invalid value for " ++ key ++ ": " ++ reason

/-- Everything that can end a stage of the relay. -/
inductive RelayError where
  | analytics (error : AnalyticsError)
  | rebate (error : RebateError)
  | store (error : StoreError)
  | chain (error : ChainError)
  | config (error : ConfigError)
  /-- Shutdown was signalled. -/
  | cancelled
  /-- A supervised task broke down. -/
  | task (reason : String)

namespace RelayError

/-- The wording of a failure. -/
def message : RelayError → String
  | analytics error => error.message
  | rebate error => error.message
  | store error => error.message
  | chain error => error.message
  | config error => error.message
  | cancelled => "cancelled"
  | task reason => "task failed: " ++ reason

/-- The stage of the relay that a failure belongs to. -/
def stage : RelayError → String
  | analytics _ => "analytics"
  | rebate _ => "calculate"
  | store _ => "store"
  | chain _ => "chain"
  | config _ => "config"
  | cancelled => "shutdown"
  | task _ => "task"

/-- Shutdown was observed; nothing failed. -/
def isCancellation : RelayError → Bool
  | cancelled | analytics .cancelled => true
  | _ => false

end RelayError

end RebateRelay
