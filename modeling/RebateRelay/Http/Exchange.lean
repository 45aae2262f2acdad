import RebateRelay.Http.Status
import RebateRelay.Http.Url.Reader
import RebateRelay.Json.Reader

/-!
# Requests and responses

A request is made from the text of an address and a few headers, and not everything can be made
into one. What comes back for it is a response, or nothing when the connection is closed first; the
body of a response may break off. Whoever makes requests is given a way to send them.
-/

namespace RebateRelay.Http

/-- What is to be done at an address. -/
inductive Method where
  | get
  | post
  deriving DecidableEq, Repr

/-- The word for a method. -/
def Method.label : Method → String
  | get => "GET"
  | post => "POST"

/-- A request that can be sent. -/
structure Request where
  method : Method
  url : Url
  headers : List (String × String) := []
  body : Option Json := none

/-- A response, and whether its body came through. -/
structure Response where
  status : Status
  body : String
  isWhole : Bool := true
  deriving DecidableEq, Repr

/-- A way to send requests; none comes back when there is no response. -/
abbrev Sender := Request → Option Response

/-- What can go wrong with an exchange. -/
inductive Fault where
  /-- The address or a header cannot be read. -/
  | unusable
  /-- The address is none that requests can be sent to. -/
  | unsupported (url : Url)
  /-- There was no response. -/
  | unanswered (url : Url)
  /-- The body broke off, or is not what was wanted. -/
  | unreadable (url : Url)

/-- The wording of a fault. -/
def Fault.message : Fault → String
  | unusable => "builder error"
  | unsupported url => "builder error for url (" ++ url.text ++ ")"
  | unanswered url => "error sending request for url (" ++ url.text ++ ")"
  | unreadable url => "error decoding response body for url (" ++ url.text ++ ")"

/-- The longest address that is sent. -/
def longestAddress : Nat := 65534

/-- Characters of names that no request can carry. -/
def isUncarried (c : Char) : Bool := ['"', '\x60', '\x7b', '\x7d'].contains c

/-- The address is one of the web that a request can carry. -/
def Url.isCarried (url : Url) : Bool :=
  url.isWeb && url.text.length ≤ longestAddress &&
    url.host?.all fun host => !host.text.toList.any isUncarried

/-- A character that may stand in the value of a header. -/
def inHeader (c : Char) : Bool := c == '\t' || (0x20 ≤ c.toNat && c.toNat != 0x7F)

namespace Request

/-- Makes a request. The address has to lead to some host. Then the headers are looked at, and then
whether a request can carry the address. -/
def make (method : Method) (address : String) (headers : List (String × String))
    (body : Option Json) : Except Fault Request :=
  match Url.read? address with
  | none => .error .unusable
  | some url =>
    let url := url.withoutCredentials
    if url.host?.isNone then .error (.unsupported url)
    else if !headers.all fun (_, value) => value.toList.all inHeader then .error .unusable
    else if !url.isCarried then .error (.unsupported url)
    else .ok ⟨method, url, headers, body⟩

/-- Sends a request. -/
def send (request : Request) (sender : Sender) : Except Fault Response :=
  match sender request with
  | some response => .ok response
  | none => .error (.unanswered request.url)

end Request

namespace Response

/-- The body as a text, without a mark of the byte order in front. -/
def text? (response : Response) : Option String :=
  if response.isWhole then
    match response.body.toList with
    | '\uFEFF' :: cs => some (String.ofList cs)
    | _ => some response.body
  else none

/-- The body as a JSON value. -/
def json? (response : Response) : Option Json :=
  if response.isWhole then Json.parse? response.body else none

end Response

end RebateRelay.Http
