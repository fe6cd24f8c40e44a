import Transparency.Client.Basic

/-!
# Networks

A network carries a request to the host that its URL names. Before anything is sent the URL is looked at: its scheme
has to be `http` or `https`, and it has to be one that can stand in a request. User name and password are taken off
the URL first, since they travel as credentials; faults name the URL without them.

`Transport.offline` is the network of a machine without a link: whatever could be sent fails to reach its host.
-/

namespace Transparency

namespace Url

/-- Whether user name and password can be told to a host: the first of them that is there has to be text. -/
def hasReadableCredentials (url : Url) : Bool :=
  let first := if url.username = "" then url.password else url.username
  (Utf8.decode (Percent.decode first.toList)).toOption.isSome

/-- The URL as it is sent. Credentials that are no text stay where they are. -/
def withoutCredentials (url : Url) : Url :=
  if url.hasReadableCredentials then url.withoutUserInfo else url

/-- URLs in requests have at most this many characters. -/
def requestLimit : Nat := 65534

/-- Characters that a host may hold, but not in a request. -/
def isUnusableInHost (c : Char) : Bool := ['"', '`', '\x7b', '\x7d'].contains c

/-- Whether the URL can stand in a request. -/
def isUsable (url : Url) : Bool :=
  url.render.length ≤ requestLimit && !((url.hostText?.getD "").toList.any isUnusableInHost)

/-- What keeps a URL from being sent, if anything. -/
def sendFault? (url : Url) : Option HttpFault :=
  if url.scheme ≠ "http" ∧ url.scheme ≠ "https" then some (.schemeNotAllowed url.render)
  else if url.isUsable then none
  else some (.unusableUrl url.render)

end Url

/-- The network of a machine that no other can be reached from. -/
def Transport.offline {σ : Type} : Transport σ := fun request s =>
  let url := request.url.withoutCredentials
  (.error (.http ((url.sendFault?).getD (.sending url.render (.connect .unreachable)))), s)

end Transparency
