import RebateRelay.Http.HostName.Label
import RebateRelay.Http.Percent

/-!
# Host names

A host name is read into the form that is sent: its plain and canonical text, with the labels beyond
ASCII in ASCII letters. Some ASCII characters part an address and may not be in a name.
-/

namespace RebateRelay.Http.HostName

open Text

/-- Characters of ASCII that no name may have. -/
def isForbidden (c : Char) : Bool :=
  c.toNat < 0x20 || c.toNat == 0x7F ||
    [' ', '#', '%', '/', ':', '<', '>', '?', '@', '[', '\\', ']', '^', '|'].contains c

/-- Reads a name into the form that is sent. -/
def read? (text : List Char) : Option (List Char) := do
  let labels ← (splitOn '.' (canonical (← plainText? text))).mapM readLabel?
  if !goTogether labels then none
  let name := ['.'].intercalate (labels.map labelText)
  if name.any isForbidden then none else some name

end RebateRelay.Http.HostName
