import RebateRelay.Time.Rfc3339

/-!
# The start date

The cutoff before which rows are passed over: an instant in the form of RFC 3339, or a date alone,
which stands for its first moment in universal time.
-/

namespace RebateRelay.StartDate

/-- The instant at which a date begins. -/
def midnight? (date : Date) : Option Timestamp :=
  Layout.Fields.timestamp? ⟨date, 0, 0, 0, 0⟩ 0

/-- Reads a date alone. -/
def parseDate? (text : String) : Option Timestamp :=
  (Layout.run (Layout.date false) text.toList).toOption.bind midnight?

/-- Reads a start date in either form. -/
def parse? (text : String) : Option Timestamp :=
  (Rfc3339.parseStrict? text).or (parseDate? text)

end RebateRelay.StartDate
