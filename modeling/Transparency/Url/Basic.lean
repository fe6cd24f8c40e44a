import Transparency.Url.Host

/-!
# URLs

A URL is kept as its parts, each already in the form in which it is printed, so that printing only puts them side by
side. Two URLs are the same exactly when their parts are.
-/

namespace Transparency

/-- What follows the host. -/
inductive UrlPath where
  /-- the text of a URL that has no hierarchy, such as `mailto:someone` -/
  | plain (text : String)
  /-- the segments after each slash -/
  | segments (list : List String)
  deriving DecidableEq, Repr

/-- A URL by its parts. -/
structure Url where
  /-- the scheme in lower case, without its colon -/
  scheme : String
  username : String := ""
  password : String := ""
  /-- the host; an empty name where two slashes stand without one -/
  host : Option Host := none
  /-- the port, unless it is the default of the scheme -/
  port : Option Nat := none
  path : UrlPath
  query : Option String := none
  fragment : Option String := none
  deriving DecidableEq, Repr

namespace Url

/-- The port that a scheme implies. -/
def defaultPort? (scheme : String) : Option Nat :=
  if scheme = "http" ∨ scheme = "ws" then some 80
  else if scheme = "https" ∨ scheme = "wss" then some 443
  else if scheme = "ftp" then some 21
  else none

/-- Whether the scheme is one of those whose URLs always have a host and a path. -/
def isSpecialScheme (scheme : String) : Bool :=
  scheme = "file" || (defaultPort? scheme).isSome

/-- The host as text, if there is one. An empty host counts as none. -/
def hostText? (url : Url) : Option String := (url.host.map Host.render).filter (· ≠ "")

/-- Whether the URL asks for a TLS connection. -/
def isHttps (url : Url) : Bool := url.scheme = "https"

/-- The user name and the password in front of the host. -/
def renderUserInfo (url : Url) : String :=
  if url.username = "" ∧ url.password = "" then ""
  else if url.password = "" then url.username ++ "@"
  else url.username ++ ":" ++ url.password ++ "@"

/-- The host with its user information and port, after two slashes. A path that starts with an empty segment and has
no host before it is kept apart by `/.`, since its slashes would read as a host. -/
def renderAuthority (url : Url) : String :=
  match url.host, url.path with
  | some host, _ =>
    "//" ++ url.renderUserInfo ++ host.render ++ (url.port.map fun p => ":" ++ toString p).getD ""
  | none, .segments ("" :: _ :: _) => "/."
  | none, _ => ""

/-- The path as text. -/
def renderPath : UrlPath → String
  | .plain text => text
  | .segments list => String.join (list.map ("/" ++ ·))

/-- The whole URL as text. -/
def render (url : Url) : String :=
  url.scheme ++ ":" ++ url.renderAuthority ++ renderPath url.path
    ++ (url.query.map ("?" ++ ·)).getD "" ++ (url.fragment.map ("#" ++ ·)).getD ""

/-- The URL without user name and password. -/
def withoutUserInfo (url : Url) : Url := { url with username := "", password := "" }

end Url

end Transparency
