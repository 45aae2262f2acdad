import RebateRelay.Error

/-!
# Directions of a transfer

The analytics service labels a transfer with the side it goes to. The labels are a closed set, and
each stands for one chain; any other label is an error and never falls back to some chain.
-/

namespace RebateRelay

/-- The side that a transfer goes to. -/
inductive Direction where
  | arbitrum
  | ethereum
  | avalanche
  deriving DecidableEq, Repr

namespace Direction

/-- The label on the wire. -/
def label : Direction → String
  | arbitrum => "ARB"
  | ethereum => "ETH"
  | avalanche => "AVAX"

/-- The number of the chain that a direction points at. -/
def chainId : Direction → UInt64
  | arbitrum => 42161
  | ethereum => 1
  | avalanche => 43114

/-- All directions. -/
def all : List Direction := [arbitrum, ethereum, avalanche]

/-- The direction with a given label. -/
def ofLabel? (label : String) : Option Direction :=
  all.find? fun direction => direction.label == label

/-- The direction with a given label; another text is reported. -/
def parse (text : String) : Except RebateError Direction :=
  match ofLabel? text with
  | some direction => .ok direction
  | none => .error (.unknownDirection text)

@[simp] theorem ofLabel?_label (direction : Direction) :
    ofLabel? direction.label = some direction := by
  cases direction <;> decide

end Direction

end RebateRelay
