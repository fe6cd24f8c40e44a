import Transparency.Error
import Transparency.Http.Headers
import Transparency.Http.Status

/-!
# Requests and responses

What is sent, and what comes back. A response knows the URL that served it, which redirects may have changed, and the
certificate that the server showed on a TLS connection.
-/

namespace Transparency

/-- What is sent. -/
structure Request where
  method : String := "GET"
  url : Url
  headers : Headers := []
  body : Option Bytes := none
  /-- how long to wait for the response, in milliseconds; without it the client decides -/
  timeout : Option Nat := some 30000
  deriving DecidableEq, Repr

namespace Request

/-- A request for what a text points to. -/
def ofText (method text : String) : Except Error Request :=
  match Url.parse text with
  | .ok url => .ok { method, url }
  | .error fault => .error (.url fault)

/-- A request that asks for what a text points to. -/
def get (text : String) : Except Error Request := ofText "GET" text

end Request

/-- What comes back. -/
structure Response where
  status : Status := .ok
  headers : Headers := []
  body : Bytes := []
  /-- what served the response -/
  url : Url
  /-- how long it took, in milliseconds -/
  time : Nat := 1
  /-- the certificate that the server showed -/
  certificate : Option Bytes := none
  deriving DecidableEq, Repr

namespace Response

/-- The host that served the response; the empty text if its URL has none. -/
def host (response : Response) : String := response.url.hostText?.getD ""

/-- Whether the connection was a TLS connection. -/
def isHttps (response : Response) : Bool := response.url.isHttps

/-- The body as text. -/
def text (response : Response) : Except Error String :=
  match Utf8.decode response.body with
  | .ok text => .ok text
  | .error fault => .error (.utf8 fault)

/-- The body as text, with replacement characters for what is no text. -/
def lossyText (response : Response) : String := Utf8.decodeLossy response.body

end Response

end Transparency
