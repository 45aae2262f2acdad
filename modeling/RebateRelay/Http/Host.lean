import RebateRelay.Http.HostName
import RebateRelay.Http.Ipv6

/-!
# Hosts in addresses

A host of the web is a name or an address of the internet. A name whose last part is a number has to
be an address of four bytes; an address of eight pieces stands in brackets. For other addresses a
host is either that or a text of which nothing is known.
-/

namespace RebateRelay.Http

/-- A place that an address leads to. -/
inductive Host where
  /-- A name in the form that is sent. -/
  | name (text : String)
  | ipv4 (address : Ipv4)
  | ipv6 (address : Ipv6)
  /-- A text of which nothing is known. -/
  | opaqueText (text : String)
  deriving DecidableEq, Repr

namespace Host

/-- The text of a host. -/
def text : Host → String
  | name text | opaqueText text => text
  | ipv4 address => address.text
  | ipv6 address => "[" ++ address.text ++ "]"

/-- Reads an address of eight pieces in its brackets. -/
def bracketed? (cs : List Char) : Option Host :=
  if cs.getLast? = some ']' then (Ipv6.read? (cs.drop 1).dropLast).map ipv6 else none

/-- Reads a host of the web. -/
def read? (cs : List Char) : Option Host :=
  if cs.head? = some '[' then bracketed? cs
  else do
    let text ← String.fromUTF8? ⟨(Percent.decode cs).toArray⟩
    let host ← HostName.read? text.toList
    if host.isEmpty then none
    else if Ipv4.endsInNumber host then (Ipv4.read? host).map ipv4
    else some (name (String.ofList host))

/-- Characters that no host may have, whatever the address. -/
def isForbidden (c : Char) : Bool :=
  ['\x00', '\t', '\n', '\r', ' ', '#', '/', ':', '<', '>', '?', '@', '[', '\\', ']', '^',
    '|'].contains c

/-- Reads a host of any other address. -/
def readOpaque? (cs : List Char) : Option Host :=
  if cs.head? = some '[' then bracketed? cs
  else if cs.any isForbidden then none
  else some (opaqueText (String.ofList (Percent.encode Percent.isControl cs)))

end Host

end RebateRelay.Http
