import RebateRelay.Analytics.Row
import RebateRelay.Error
import RebateRelay.Time.Clock

/-!
# A scripted analytics service

The service answers each kind of query from a script of its own. A dispatch and a question each take
the next entry of their list; when the questions run out, a fallback answers. A dispatch may leave
the name of the job to the service, which then names jobs by kind and by number.
-/

namespace RebateRelay.Rehearsal

/-- How a dispatch is answered. -/
inductive Dispatch where
  /-- The service names the job. -/
  | numbered
  /-- The script names the job. -/
  | named (id : String)
  /-- The dispatch fails. -/
  | fails (error : AnalyticsError)

/-- What the service answers to the query of one kind. -/
structure Script where
  /-- How long each call takes. -/
  latency : Duration := .zero
  dispatches : List Dispatch := []
  answers : List (Except AnalyticsError ExecutionResults) := []
  /-- What is answered when the answers have run out. -/
  fallback : Except AnalyticsError ExecutionResults :=
    .ok ⟨{ state := .running }, [], {}⟩

/-- The service: a script for each kind, and what it has given out. -/
structure Service where
  bridge : Script := {}
  rfq : Script := {}
  /-- The dispatches that have been answered, of both kinds. -/
  dispatched : Nat := 0
  /-- The kind of each job, the latest first. -/
  jobs : List (String × QueryKind) := []

namespace Service

/-- The script of a kind. -/
def script (s : Service) : QueryKind → Script
  | .bridge => s.bridge
  | .rfq => s.rfq

/-- Replaces the script of a kind. -/
def withScript (s : Service) (kind : QueryKind) (script : Script) : Service :=
  match kind with
  | .bridge => { s with bridge := script }
  | .rfq => { s with rfq := script }

/-- The kind of a job. -/
def kindOf (s : Service) (id : String) : QueryKind := (s.jobs.lookup id).getD .bridge

/-- The name that the service gives to its next job. -/
def nextName (s : Service) (kind : QueryKind) : String :=
  kind.label ++ "-" ++ toString s.dispatched

/-- Answers a dispatch. -/
def execute (s : Service) (kind : QueryKind) : Service × Except AnalyticsError String :=
  let script := s.script kind
  let s' := { s.withScript kind { script with dispatches := script.dispatches.tail } with
    dispatched := s.dispatched + 1 }
  match script.dispatches.head?.getD .numbered with
  | .fails e => (s', .error e)
  | .named id => ({ s' with jobs := (id, kind) :: s'.jobs }, .ok id)
  | .numbered => ({ s' with jobs := (s.nextName kind, kind) :: s'.jobs }, .ok (s.nextName kind))

/-- Answers a question about a job. -/
def fetch (s : Service) (id : String) : Service × Except AnalyticsError ExecutionResults :=
  let kind := s.kindOf id
  let script := s.script kind
  match script.answers with
  | [] => (s, script.fallback)
  | answer :: rest => (s.withScript kind { script with answers := rest }, answer)

end Service

/-- A call that the service has answered, and when it was made. -/
inductive Call where
  | execute (kind : QueryKind) (made : Instant)
  | fetch (id : String) (made : Instant)
  deriving DecidableEq, Repr

end RebateRelay.Rehearsal
