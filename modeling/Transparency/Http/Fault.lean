import Transparency.Url.Parse

/-!
# Faults of HTTP exchanges

What can go wrong when a client is set up or a request is sent. Faults of an exchange name the URL they are about; of
all faults only a timeout and a connection that never came about are worth another try.
-/

namespace Transparency

/-- Why a text is no proxy. -/
inductive ProxyFault where
  | url (fault : UrlFault)
  /-- the text is a URL, but none that points to a host -/
  | noHost (target : String)
  /-- the scheme is neither `http` nor `https` -/
  | unknownScheme
  deriving DecidableEq, Repr

/-- What a fault is called in messages. -/
def ProxyFault.message : ProxyFault → String
  | .url fault => "builder error: builder error: " ++ fault.message
  | .noHost target => "builder error: builder error for url (" ++ target ++ "): URL scheme is not allowed"
  | .unknownScheme => "builder error: unknown proxy scheme"

/-- Reads a URL that points to a host. -/
def Url.parseWithHost (text : String) : Except ProxyFault Url :=
  match Url.parse text with
  | .error fault => .error (.url fault)
  | .ok url => if url.hostText?.isSome then .ok url else .error (.noHost url.render)

/-- Reads the URL of a proxy. The scheme may be left out, so a text that has none, or whose scheme could just as well be
the name of a host, is read again with `http` in front. -/
def Url.parseProxy (text : String) : Except ProxyFault Url :=
  let reading := match Url.parseWithHost text with
    | .error (.url .relativeWithoutBase) => retry (.url .relativeWithoutBase)
    | .error (.noHost url) => retry (.noHost url)
    | reading => reading
  match reading with
  | .error fault => .error fault
  | .ok url => if url.scheme = "http" ∨ url.scheme = "https" then .ok url else .error .unknownScheme
where
  /-- The second reading; if it fails too, the fault is that of the first. -/
  retry (fault : ProxyFault) : Except ProxyFault Url :=
    match Url.parseWithHost ("http://" ++ text) with
    | .ok url => .ok url
    | .error _ => .error fault

/-- Why no connection came about. -/
inductive ConnectFault where
  /-- no network leads to the host -/
  | unreachable
  /-- nobody listens -/
  | refused
  /-- the proxy does not lead to the host -/
  | tunnelRefused
  /-- the proxy wants to know who asks -/
  | proxyAuthentication
  deriving DecidableEq, Repr

/-- What a fault is called in messages. -/
def ConnectFault.message : ConnectFault → String
  | .unreachable => "tcp connect error: Network is unreachable (os error 101)"
  | .refused => "tcp connect error: Connection refused (os error 111)"
  | .tunnelRefused => "unsuccessful tunnel"
  | .proxyAuthentication => "proxy authentication required"

/-- Why a request that was sent got no response. -/
inductive SendFault where
  | timedOut
  /-- the connection was closed before a response -/
  | closed
  /-- the answer was not HTTP -/
  | notHttp
  | connect (fault : ConnectFault)
  deriving DecidableEq, Repr

/-- What a fault is called in messages. -/
def SendFault.message : SendFault → String
  | .timedOut => "operation timed out"
  | .closed => "connection closed before message completed"
  | .notHttp => "invalid HTTP version parsed"
  | .connect fault => "error trying to connect: " ++ fault.message

/-- What went wrong with an exchange, or with the client that was to make it. -/
inductive HttpFault where
  | sending (url : String) (fault : SendFault)
  | tooManyRedirects (url : String)
  /-- the scheme is neither `http` nor `https` -/
  | schemeNotAllowed (url : String)
  /-- the URL cannot stand in a request -/
  | unusableUrl (url : String)
  /-- the body ended early -/
  | truncatedBody
  /-- a text cannot stand in a header -/
  | badHeaderValue
  | proxy (fault : ProxyFault)
  deriving DecidableEq, Repr

namespace HttpFault

/-- What a fault is called in messages. -/
def message : HttpFault → String
  | sending url fault => "error sending request for url (" ++ url ++ "): " ++ fault.message
  | tooManyRedirects url => "error following redirect for url (" ++ url ++ "): too many redirects"
  | schemeNotAllowed url => "builder error for url (" ++ url ++ "): URL scheme is not allowed"
  | unusableUrl url => "builder error for url (" ++ url ++ "): Parsed Url is not a valid Uri"
  | truncatedBody =>
    "request or response body error: error reading a body from connection: " ++
      "end of file before message length reached"
  | badHeaderValue => "builder error: failed to parse header value"
  | proxy fault => fault.message

/-- Whether another try may succeed: nothing was wrong with the request or the response. -/
def isRecoverable : HttpFault → Bool
  | sending _ .timedOut => true
  | sending _ (.connect _) => true
  | _ => false

end HttpFault

end Transparency
