import RebateRelay.Analytics.QueryKind
import RebateRelay.Time.Timestamp

/-!
# Jobs on the analytics service

A query that has been dispatched is an execution. It moves through a few states, of which three are
final; every answer of the service reports the state anew and some of four times. A time that an
answer leaves out keeps its last value.
-/

namespace RebateRelay

/-- The state of a job. -/
inductive ExecutionState where
  /-- Accepted and waiting. -/
  | submitted
  /-- Being worked on. -/
  | running
  /-- Ended with a full result. -/
  | completed
  /-- Ended without a result that can be used. -/
  | failed
  /-- The result is no longer kept. -/
  | expired
  deriving DecidableEq, Repr

namespace ExecutionState

/-- The word for a state in messages. -/
def label : ExecutionState → String
  | submitted => "submitted"
  | running => "running"
  | completed => "completed"
  | failed => "failed"
  | expired => "expired"

/-- No further change is to come. -/
def isFinal : ExecutionState → Bool
  | completed | failed | expired => true
  | submitted | running => false

/-- The states as the service spells them. A partial result counts as none. -/
def wireNames : List (String × ExecutionState) := [
  ("QUERY_STATE_PENDING", submitted),
  ("QUERY_STATE_EXECUTING", running),
  ("QUERY_STATE_COMPLETED", completed),
  ("QUERY_STATE_FAILED", failed),
  ("QUERY_STATE_CANCELLED", failed),
  ("QUERY_STATE_COMPLETED_PARTIAL", failed),
  ("QUERY_STATE_EXPIRED", expired)]

/-- Reads a state as the service spells it. -/
def parse (text : String) : Except String ExecutionState :=
  match wireNames.lookup text with
  | some state => .ok state
  | none => .error ("unknown execution state " ++ Text.quote text)

end ExecutionState

/-- The times of a job, as far as they are known. -/
structure ExecutionTimes where
  submittedAt : Option Timestamp := none
  expiresAt : Option Timestamp := none
  startedAt : Option Timestamp := none
  endedAt : Option Timestamp := none
  deriving DecidableEq, Repr

/-- Takes over the times that a later answer gives and keeps the others. -/
def ExecutionTimes.update (old new : ExecutionTimes) : ExecutionTimes where
  submittedAt := new.submittedAt.or old.submittedAt
  expiresAt := new.expiresAt.or old.expiresAt
  startedAt := new.startedAt.or old.startedAt
  endedAt := new.endedAt.or old.endedAt

/-- What one answer says about a job. -/
structure ExecutionStatus where
  state : ExecutionState
  times : ExecutionTimes := {}
  deriving DecidableEq, Repr

/-- A dispatched job. -/
structure Execution where
  /-- The name that the service gave it. -/
  id : String
  kind : QueryKind
  state : ExecutionState
  times : ExecutionTimes
  deriving DecidableEq, Repr

namespace Execution

/-- A job that has just been dispatched. -/
def fresh (id : String) (kind : QueryKind) : Execution := ⟨id, kind, .submitted, {}⟩

/-- The job after an answer about it. -/
def observe (e : Execution) (status : ExecutionStatus) : Execution :=
  { e with state := status.state, times := e.times.update status.times }

@[simp] theorem id_observe (e : Execution) (status : ExecutionStatus) :
    (e.observe status).id = e.id := rfl

@[simp] theorem kind_observe (e : Execution) (status : ExecutionStatus) :
    (e.observe status).kind = e.kind := rfl

end Execution

end RebateRelay
