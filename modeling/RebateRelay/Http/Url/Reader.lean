import RebateRelay.Http.Url

/-!
# Reading addresses

Reading brings an address into its normal form: tabs and line ends are dropped, scheme and host are
in lower case, the port is left out where the scheme implies it, the steps of the path are carried
out, and characters that may not stand as they are become percent-encoded. A text without a scheme
is no address. Schemes of the web take backslashes for slashes and need a host; an address of a file
may do without.
-/

namespace RebateRelay.Http.Url

open Number

/-- The schemes with rules of their own, and the ports that they imply. -/
def specialSchemes : List (String × Option Nat) := [
  ("http", some 80), ("https", some 443), ("ws", some 80), ("wss", some 443), ("ftp", some 21),
  ("file", none)]

/-- The scheme has rules of its own. -/
def isSpecial (scheme : String) : Bool := (specialSchemes.lookup scheme).isSome

/-- Blanks and control characters, which may surround an address. -/
def isEdge (c : Char) : Bool := c.toNat ≤ 0x20

/-- A text without what may surround an address and without tabs and line ends. -/
def clean (cs : List Char) : List Char :=
  let inside := ((cs.dropWhile isEdge).reverse.dropWhile isEdge).reverse
  inside.filter fun c => c != '\t' && c != '\n' && c != '\r'

/-- A character that may stand in a scheme after its first letter. -/
def inScheme (c : Char) : Bool := c.isAlphanum || c == '+' || c == '-' || c == '.'

/-- The scheme in front of a text, in lower case, and what follows its colon. -/
def scheme? (cs : List Char) : Option (String × List Char) := do
  let (before, rest) ← Text.splitOnce? ':' cs
  let first ← before.head?
  if first.isAlpha && before.all inScheme then
    some (String.ofList (before.map Char.toLower), rest)
  else none

/-- A slash, or what counts as one. -/
def isSlash (special : Bool) (c : Char) : Bool := c == '/' || (special && c == '\\')

/-- A character that begins the query or the fragment. -/
def endsPath (c : Char) : Bool := c == '?' || c == '#'

/-- What stands before the last at sign of an authority and after it, if there is one. -/
def splitCredentials? (special : Bool) (cs : List Char) : Option (List Char × List Char) :=
  let authority := cs.takeWhile fun c => !isSlash special c && !endsPath c
  let place := (authority.reverse.takeWhile (· != '@')).length
  if place < authority.length then
    let before := authority.length - place - 1
    some (cs.take before, cs.drop (before + 1))
  else none

/-- Reads user and password and gives what follows them. Where nothing stands before the at sign,
something has to stand behind it. -/
def credentials? (special : Bool) (cs : List Char) : Option (Authority × List Char) :=
  match splitCredentials? special cs with
  | none => some ({}, cs)
  | some ([], rest) =>
    if rest.head?.any fun c => isSlash special c || endsPath c then none else some ({}, rest)
  | some (before, rest) =>
    let (user, password) := (Text.splitOnce? ':' before).getD (before, [])
    let encode (cs : List Char) : String := String.ofList (Percent.encode Percent.inUser cs)
    some ({
      user := encode user
      password := if password.isEmpty then none else some (encode password) }, rest)

/-- The text of a host: up to a colon outside brackets or the end of the authority. -/
def takeHost (special : Bool) (inBrackets : Bool) : List Char → List Char
  | [] => []
  | c :: cs =>
    if (c == ':' && !inBrackets) || isSlash special c || endsPath c then []
    else c :: takeHost special (c == '[' || (inBrackets && c != ']')) cs

/-- Reads the port behind a colon, unless the scheme implies it, and gives what follows it. -/
def port? (scheme : String) : List Char → Option (Option Nat × List Char)
  | ':' :: cs =>
    let digits := cs.takeWhile isDigit
    let rest := cs.drop digits.length
    let n := digitsValue 0 digits
    if 65535 < n || rest.head?.any fun c => !isSlash true c && !endsPath c then none
    else if digits.isEmpty || (specialSchemes.lookup scheme).join = some n then some (none, rest)
    else some (some n, rest)
  | cs => some (none, cs)

/-- Reads an authority and gives what follows it. A scheme with rules of its own needs a host, and
so do user, password and port. -/
def authority? (scheme : String) (cs : List Char) : Option (Authority × List Char) := do
  let special := isSpecial scheme
  let (authority, cs) ← credentials? special cs
  let hostText := takeHost special false cs
  let rest := cs.drop hostText.length
  if hostText.isEmpty then
    if special || rest.head? = some ':' || authority.credentials != "" then none
    else some (authority, rest)
  else
    let host ← if special then Host.read? hostText else Host.readOpaque? hostText
    let (port, rest) ← port? scheme rest
    some ({ authority with host := some host, port }, rest)

/-- Adds the path of an address that is not one of a file. -/
def withPath (url : Url) (cs : List Char) : Url :=
  let special := isSpecial url.scheme
  let walked (cs : List Char) : Path := .segments (Path.walked false (isSlash special) cs)
  match cs with
  | [] => { url with path := .segments (if special then [""] else []) }
  | c :: rest => { url with path := walked (if isSlash special c then rest else cs) }

/-- Adds the query and the fragment of what follows the path. -/
def withTail (url : Url) (cs : List Char) : Url :=
  let inQuery := if isSpecial url.scheme then Percent.inQuery else Percent.inOtherQuery
  let query := cs.takeWhile (· != '#')
  let fragment := cs.drop query.length
  { url with
    query := match query with
      | '?' :: q => some (String.ofList (Percent.encode inQuery q))
      | _ => none
    fragment := match fragment with
      | _ :: f => some (String.ofList (Percent.encode Percent.inFragment f))
      | [] => none }

/-- Parts what follows the scheme or the host into the path and the rest. -/
def splitPath (cs : List Char) : List Char × List Char :=
  let path := cs.takeWhile fun c => !endsPath c
  (path, cs.drop path.length)

/-- Reads a path of which nothing is known. -/
def withOpaque (url : Url) (cs : List Char) : Url :=
  { url with path := .opaqueText (String.ofList (Percent.encode Percent.isControl cs)) }

/-- The host of an address of a file. The name that leads to where one is says nothing. -/
def fileHost? (cs : List Char) : Option (Option Host) :=
  if cs.isEmpty then some none
  else (Host.read? cs).map fun host => if host = .name "localhost" then none else some host

/-- The address of a file at a host. A path that leads to a drive leaves no room for a host. -/
def ofFile (host : Option Host) (path : List Char) : Url :=
  let segments := Path.walked true (isSlash true) path
  { scheme := "file"
    authority := some { host := if Path.leadsToDrive segments then none else host }
    path := .segments (Path.withoutEmptyFront segments) }

/-- Reads the path of an address of a file, with the host that stands before it. -/
def file? (cs : List Char) : Option Url :=
  match cs with
  | a :: b :: rest =>
    if isSlash true a && isSlash true b then
      let hostText := rest.takeWhile fun c => !isSlash true c
      if Path.isDrive hostText then some (ofFile none rest)
      else (fileHost? hostText).map fun host => ofFile host (rest.drop (hostText.length + 1))
    else if isSlash true a then some (ofFile none (b :: rest))
    else some (ofFile none cs)
  | [a] => some (ofFile none (if isSlash true a then [] else cs))
  | [] => some (ofFile none [])

/-- Reads what follows the scheme. -/
def ofRest? (scheme : String) (cs : List Char) : Option Url :=
  let start : Url := { scheme, path := .segments [] }
  let located (cs : List Char) : Option Url := do
    let (authority, cs) ← authority? scheme cs
    let (path, tail) := splitPath cs
    some (withTail (withPath { start with authority := some authority } path) tail)
  let (path, tail) := splitPath cs
  if scheme = "file" then (file? path).map (withTail · tail)
  else if isSpecial scheme then located (cs.dropWhile (isSlash true))
  else match cs with
    | '/' :: '/' :: rest => located rest
    | '/' :: _ => some (withTail (withPath start path) tail)
    | _ => some (withTail (withOpaque start path) tail)

/-- Reads an address. -/
def read? (text : String) : Option Url := do
  let (scheme, rest) ← scheme? (clean text.toList)
  ofRest? scheme rest

end RebateRelay.Http.Url
