import RebateRelay.Event
import RebateRelay.Ledger.Store

/-!
# Records kept for later

Records that could not be stored are parked in a queue and stored ahead of the next rows. A hash is
parked once: a record whose hash is in the queue is skipped. The queue is bounded; when it has grown
beyond the bound its oldest records make room.
-/

namespace RebateRelay

namespace Requeue

/-- A hash is in the queue. -/
def holds (queue : List Record) (hash : String) : Bool := queue.any fun r => r.hash == hash

/-- Adds a record at the end unless its hash is in the queue. -/
def addOne (queue : List Record) (r : Record) : List Record :=
  if holds queue r.hash then queue else queue ++ [r]

/-- Adds records whose hashes are not in the queue, one after the other. -/
def add (queue records : List Record) : List Record := records.foldl addOne queue

/-- How many records are too many. -/
def excess (capacity : Nat) (queue : List Record) : Nat := queue.length - capacity

/-- The records that stay within a bound: the latest ones. -/
def keep (capacity : Nat) (queue : List Record) : List Record := queue.drop (excess capacity queue)

/-- The records that have to make room: the oldest ones. -/
def dropped (capacity : Nat) (queue : List Record) : List Record :=
  queue.take (excess capacity queue)

/-- Parks records, and reports those that had to make room. -/
def park (capacity : Nat) (queue records : List Record) : List Record × List Event :=
  let all := add queue records
  (keep capacity all,
    (dropped capacity all).map fun r => .recordDropped r.hash r.executionId capacity)

theorem dropped_append_keep (capacity : Nat) (queue : List Record) :
    dropped capacity queue ++ keep capacity queue = queue :=
  List.take_append_drop _ _

theorem length_keep (capacity : Nat) (queue : List Record) :
    (keep capacity queue).length = min capacity queue.length := by
  simp only [keep, excess, List.length_drop]
  omega

end Requeue

end RebateRelay
