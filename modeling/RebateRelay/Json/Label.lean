import RebateRelay.Analytics.QueryKind
import RebateRelay.Json.Decode
import RebateRelay.Rebate.Direction

/-!
# Closed choices as JSON

A direction or a kind of query is written as its label.
-/

namespace RebateRelay

/-- Reads a direction. -/
def Direction.ofJson? (j : Json) : Option Direction := j.label? >>= Direction.ofLabel?

/-- The JSON value of a direction. -/
def Direction.toJson (direction : Direction) : Json := .ofString direction.label

/-- Reads a kind of query. -/
def QueryKind.ofJson? (j : Json) : Option QueryKind := j.label? >>= QueryKind.ofLabel?

/-- The JSON value of a kind of query. -/
def QueryKind.toJson (kind : QueryKind) : Json := .ofString kind.label

end RebateRelay
