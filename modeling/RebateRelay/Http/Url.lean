import RebateRelay.Http.Host
import RebateRelay.Http.Path

/-!
# Addresses

An address has a scheme, an authority for most schemes, a path, a query and a fragment. The
authority names a user, a password, a host and a port, of which any may be missing. All parts are
kept in normal form, so that an address has one text.
-/

namespace RebateRelay.Http

/-- The part of an address that says who is asked. -/
structure Authority where
  user : String := ""
  password : Option String := none
  host : Option Host := none
  port : Option Nat := none
  deriving DecidableEq, Repr

namespace Authority

/-- The user and the password as they stand before the host. -/
def credentials (a : Authority) : String :=
  match a.user, a.password with
  | "", none => ""
  | user, none => user ++ "@"
  | user, some password => user ++ ":" ++ password ++ "@"

/-- The text of an authority. -/
def text (a : Authority) : String :=
  a.credentials ++ ((a.host.map Host.text).getD "") ++ (match a.port with
    | some port => ":" ++ toString port
    | none => "")

/-- A text with encoded bytes spells characters. -/
def isLegible (encoded : String) : Bool :=
  (String.fromUTF8? ⟨(Percent.decode encoded.toList).toArray⟩).isSome

/-- The authority without user and password, if they can be taken out of it: the user has to spell
characters, and so has the password if there is no user. -/
def withoutCredentials (a : Authority) : Authority :=
  if isLegible a.user && (a.user != "" || a.password.any isLegible) then
    { a with user := "", password := none }
  else a

end Authority

/-- An address in normal form. -/
structure Url where
  scheme : String
  authority : Option Authority := none
  path : Path
  query : Option String := none
  fragment : Option String := none
  deriving DecidableEq, Repr

namespace Url

/-- The host of an address. -/
def host? (url : Url) : Option Host := url.authority.bind Authority.host

/-- The address is one of the web. -/
def isWeb (url : Url) : Bool := url.scheme == "http" || url.scheme == "https"

/-- The address without user and password, if they can be taken out of it. -/
def withoutCredentials (url : Url) : Url :=
  { url with authority := url.authority.map Authority.withoutCredentials }

/-- The path and the query, which is what a server gets to see. -/
def target (url : Url) : String :=
  url.path.text ++ (match url.query with
    | some q => "?" ++ q
    | none => "")

/-- What stands between the scheme and the path. Without an authority, a path that begins with two
slashes has a step in place before it, as it would else be read as an authority. -/
def lead (url : Url) : String :=
  match url.authority, url.path with
  | some a, _ => "//" ++ a.text
  | none, .segments ("" :: _ :: _) => "/."
  | none, _ => ""

/-- The text of an address. -/
def text (url : Url) : String :=
  let fragment := match url.fragment with
    | some f => "#" ++ f
    | none => ""
  url.scheme ++ ":" ++ url.lead ++ url.target ++ fragment

@[simp] theorem path_withoutCredentials (url : Url) : url.withoutCredentials.path = url.path := rfl

@[simp] theorem target_withoutCredentials (url : Url) :
    url.withoutCredentials.target = url.target := rfl

end Url

end RebateRelay.Http
