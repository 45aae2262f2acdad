import RebateRelay.Event

/-!
# Watching the tasks

The relay is three tasks: the submitter, the intake loop and the relay loop. Whoever watches them
waits for all three. The first failure that is no cancellation is fatal: it shuts the others down,
and it is what the relay ends with. Later failures are only reported.
-/

namespace RebateRelay

/-- How a task ends. -/
inductive TaskEnd where
  /-- It came to its end. -/
  | returned (result : Except RelayError Unit)
  /-- It broke down. -/
  | broke (reason : String)

/-- The failure of a task, if it failed. Cancellation is no failure. -/
def TaskEnd.failure? : TaskEnd → Option RelayError
  | .returned (.ok _) => none
  | .returned (.error e) => if e.isCancellation then none else some e
  | .broke reason => some (.task reason)

/-- What is known about the tasks. -/
structure Watch where
  /-- The tasks that have not ended. -/
  running : Nat := 3
  /-- The fatal failure. -/
  failure : Option RelayError := none

namespace Watch

/-- What the end of a task leads to. -/
structure Step where
  watch : Watch
  events : List Event := []
  /-- The others are shut down now. -/
  shutdown : Bool := false

/-- A task has ended. -/
def joined (w : Watch) (ended : TaskEnd) : Step :=
  let w := { w with running := w.running - 1 }
  match ended.failure?, w.failure with
  | none, _ => { watch := w }
  | some e, none =>
    { watch := { w with failure := some e }, events := [.fatalError e.stage e.message],
      shutdown := true }
  | some e, some _ => { watch := w, events := [.furtherError e.stage e.message] }

/-- All tasks have ended. -/
def isOver (w : Watch) : Bool := w.running == 0

/-- What the relay ends with. -/
def result (w : Watch) : Except RelayError Unit :=
  match w.failure with
  | some e => .error e
  | none => .ok ()

/-- What is reported at the very end. -/
def farewell (w : Watch) : List Event :=
  match w.failure with
  | some _ => []
  | none => [.relayStopped]

end Watch

end RebateRelay
