import RebateRelay.Text.Quoted

/-!
# Kinds of queries

The relay takes in two kinds of transfers, and each kind has a saved query of its own on the
analytics service.
-/

namespace RebateRelay

/-- What a query reports on. -/
inductive QueryKind where
  /-- Transfers over the canonical bridge. -/
  | bridge
  /-- Fills of the fast bridge, on request for quote. -/
  | rfq
  deriving DecidableEq, Repr

namespace QueryKind

/-- All kinds in the order in which they are taken in. -/
def all : List QueryKind := [bridge, rfq]

/-- The label in logs and stored data. -/
def label : QueryKind → String
  | bridge => "bridge"
  | rfq => "rfq"

/-- The kind with a given label. -/
def ofLabel? (label : String) : Option QueryKind :=
  all.find? fun kind => kind.label == label

/-- The kind with a given label; another text is reported. -/
def parse (text : String) : Except String QueryKind :=
  match ofLabel? text with
  | some kind => .ok kind
  | none => .error ("unknown query kind " ++ Text.quote text)

@[simp] theorem ofLabel?_label (kind : QueryKind) : ofLabel? kind.label = some kind := by
  cases kind <;> decide

end QueryKind

end RebateRelay
