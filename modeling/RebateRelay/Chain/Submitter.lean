import RebateRelay.Chain.Transaction
import RebateRelay.Event
import RebateRelay.Http.Exchange
import RebateRelay.Text.Split
import RebateRelay.Time.Clock

/-!
# The submitter

A service that signs calls, gives them numbers and sends them out. It is asked for its health when
the relay starts and once a minute from then on, and it is handed one call at a time. A number that
comes back means that the call was taken.
-/

namespace RebateRelay.Chain

/-- The service and its base address, which has no slash at the end. -/
structure Submitter where
  baseUrl : String

namespace Submitter

/-- The service at an address; slashes at the end are dropped. -/
def ofUrl (url : String) : Submitter := ⟨Text.dropTrailing '/' url⟩

/-- The time between two questions about the health of the service. -/
def probeInterval : Duration := .ofSeconds 60

/-- The request that asks for the health of the service. -/
def healthRequest (s : Submitter) : Except Http.Fault Http.Request :=
  Http.Request.make .get (s.baseUrl ++ "/health") [] none

/-- The request that hands over a call. -/
def submitRequest (s : Submitter) (tx : Transaction) : Except Http.Fault Http.Request :=
  Http.Request.make .post (s.baseUrl ++ "/transactions") [] (some tx.toJson)

/-- Asks for the health of the service; what is wrong with it is put into words. -/
def health (s : Submitter) (sender : Http.Sender) : Except String Unit := do
  let request ← s.healthRequest.mapError Http.Fault.message
  let response ← (request.send sender).mapError Http.Fault.message
  if response.status.isSuccess then return
  else throw ("health check returned " ++ response.status.text)

/-- Reads the number of a call. -/
def nonceOfJson? (j : Json) : Option UInt64 := do
  let m ← Json.Members.ofJson? ["nonce"] j
  m.required "nonce" Json.uint64?

/-- Reads the number of a call from a response. -/
def readNonce (request : Http.Request) (response : Http.Response) : Except ChainError UInt64 :=
  if response.status.isSuccess then
    match response.json? >>= nonceOfJson? with
    | some nonce => .ok nonce
    | none =>
      .error (.submit ("decoding response: " ++ (Http.Fault.unreadable request.url).message))
  else
    .error (.submit ("status " ++ response.status.text ++ ": " ++ response.text?.getD ""))

/-- Builds a call with an identity on a chain, and hands it over. -/
def submit (s : Submitter) (sender : Http.Sender) (chainId : UInt64)
    (build : Transactor → Except ChainError Transaction) : Except ChainError UInt64 := do
  let tx ← build ⟨chainId⟩
  let request ← (s.submitRequest tx).mapError fun fault => .submit fault.message
  let response ← (request.send sender).mapError fun fault => .submit fault.message
  readNonce request response

/-- Starts the service, which has to be in good health. -/
def start (s : Submitter) (sender : Http.Sender) : Except ChainError Unit × List Event :=
  match s.health sender with
  | .ok () => (.ok (), [.submitterStarted s.baseUrl])
  | .error reason => (.error (.start reason), [])

/-- What is reported about a later question for the health of the service. -/
def probe (s : Submitter) (sender : Http.Sender) : List Event :=
  match s.health sender with
  | .ok () => []
  | .error reason => [.submitterUnhealthy s.baseUrl reason]

/-- Runs the service until shutdown, given the ways to send the first question and the later
ones: as many of these as are asked before shutdown. -/
def run (s : Submitter) (first : Http.Sender) (later : List Http.Sender) :
    Except ChainError Unit × List Event :=
  match s.start first with
  | (.error e, events) => (.error e, events)
  | (.ok (), events) => (.ok (), events ++ later.flatMap s.probe ++ [.submitterStopped])

end Submitter

end RebateRelay.Chain
