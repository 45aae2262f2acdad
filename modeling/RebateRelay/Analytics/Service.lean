import RebateRelay.Analytics.RowJson
import RebateRelay.Config.Settings
import RebateRelay.Event
import RebateRelay.Http.Exchange
import RebateRelay.Time.Rfc3339

/-!
# The analytics service

Two requests: one dispatches a saved query and is answered with the name of a job, the other asks
about a job and is answered with its state, its times, and its rows so far. Whatever is wrong with a
response becomes a failure that another attempt may mend.
-/

namespace RebateRelay.AnalyticsService

/-- The header that carries the key. -/
def keyHeader : String := "X-Dune-API-Key"

/-- How much of a body is quoted in a message, in characters. -/
def quotedLength : Nat := 256

/-- The request that dispatches the query of a kind. -/
def executeRequest (s : AnalyticsSettings) (kind : QueryKind) :
    Except Http.Fault Http.Request :=
  Http.Request.make .post (s.baseUrl ++ "/query/" ++ s.queryId kind ++ "/execute")
    [(keyHeader, s.apiKey)] (some (.ofMembers [("performance", .ofString "large")]))

/-- The request that asks about a job. -/
def resultsRequest (s : AnalyticsSettings) (id : String) : Except Http.Fault Http.Request :=
  Http.Request.make .get (s.baseUrl ++ "/execution/" ++ id ++ "/results")
    [(keyHeader, s.apiKey)] none

/-- The body of a response that says that all went well. -/
def body (request : Http.Request) (response : Http.Response) : Except AnalyticsError String :=
  match response.text? with
  | none =>
    .error (.requestFailed ("reading body: " ++ (Http.Fault.unreadable request.url).message))
  | some text =>
    if response.status.isSuccess then .ok text
    else .error (.requestFailed ("expected status code 200, got " ++ response.status.text ++ ": " ++
      String.ofList (text.toList.take quotedLength)))

/-- Sends a request, and reads the body of the response. -/
def exchange (sender : Http.Sender) (what : String) (request : Except Http.Fault Http.Request) :
    Except AnalyticsError String := do
  let failed (fault : Http.Fault) : AnalyticsError := .requestFailed (what ++ ": " ++ fault.message)
  let request ← request.mapError failed
  let response ← (request.send sender).mapError failed
  body request response

/-- Reads the name of a job, if there is one. -/
def executionIdOfJson? (j : Json) : Option (Option String) := do
  let m ← Json.Members.ofJson? ["execution_id"] j
  m.nullable "execution_id" Json.string?

/-- Reads the name of a job from a body. -/
def readExecutionId (body : String) : Except AnalyticsError String :=
  match Json.parse? body >>= executionIdOfJson? with
  | none => .error (.malformed ("execute response: " ++ Json.faultText))
  | some none | some (some "") => .error (.malformed "no execution_id found in response")
  | some (some id) => .ok id

/-- Dispatches the query of a kind. -/
def execute (s : AnalyticsSettings) (sender : Http.Sender) (kind : QueryKind) :
    Except AnalyticsError String × List Event :=
  match exchange sender ("execute " ++ kind.label ++ " query") (executeRequest s kind) >>=
      readExecutionId with
  | .ok id => (.ok id, [.queryExecuted kind id])
  | .error e => (.error e, [])

/-- What a body says about a job. -/
structure Report where
  /-- The state as the service spells it. -/
  state : String
  times : ExecutionTimes
  rows : List Row
  metadata : ResultMetadata

namespace Report

/-- The names of the fields, in order. -/
def fieldNames : List String := [
  "state", "submitted_at", "expires_at", "execution_started_at", "execution_ended_at", "result"]

/-- Reads a time that may be unknown. -/
def timeOfJson? (j : Json) : Option (Option Timestamp) :=
  j.option? fun j => j.string? >>= Rfc3339.parseLenient?

/-- Reads the rows and the figures about them. -/
def resultOfJson? (j : Json) : Option (List Row × ResultMetadata) := do
  let m ← Json.Members.ofJson? ["rows", "metadata"] j
  let rows ← m.withDefault "rows" [] (Json.list? Row.ofJson?)
  let metadata ← m.withDefault "metadata" {} ResultMetadata.ofJson?
  return (rows, metadata)

/-- Reads what is said about a job. -/
def ofJson? (j : Json) : Option Report := do
  let m ← Json.Members.ofJson? fieldNames j
  let state ← m.required "state" Json.string?
  let times : ExecutionTimes := {
    submittedAt := ← m.withDefault "submitted_at" none timeOfJson?
    expiresAt := ← m.withDefault "expires_at" none timeOfJson?
    startedAt := ← m.withDefault "execution_started_at" none timeOfJson?
    endedAt := ← m.withDefault "execution_ended_at" none timeOfJson? }
  let result ← m.withDefault "result" none (Json.option? resultOfJson?)
  let (rows, metadata) := result.getD ([], {})
  return ⟨state, times, rows, metadata⟩

end Report

/-- Reads what a body says about a job. -/
def readReport (body : String) : Except AnalyticsError (Report × ExecutionResults) :=
  match Json.parse? body >>= Report.ofJson? with
  | none => .error (.malformed ("results response: " ++ Json.faultText))
  | some report =>
    match ExecutionState.parse report.state with
    | .error reason => .error (.malformed reason)
    | .ok state => .ok (report, ⟨⟨state, report.times⟩, report.rows, report.metadata⟩)

/-- Asks about a job. -/
def fetch (s : AnalyticsSettings) (sender : Http.Sender) (id : String) :
    Except AnalyticsError ExecutionResults × List Event :=
  match exchange sender "get execution results" (resultsRequest s id) >>= readReport with
  | .ok (report, results) =>
    (.ok results, [.resultsFetched id report.state report.rows.length])
  | .error e => (.error e, [])

end RebateRelay.AnalyticsService
