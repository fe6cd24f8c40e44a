import Transparency.Http.Message
import Transparency.Journal

/-!
# Interceptors

An interceptor sees each request before it is sent, each response after it came, and each error of sending. It may
change requests and responses, answer a request itself, and keep state of its own, which is a part of the state `σ`
that all of them share. Whatever it does not care about it leaves as it is.

An interceptor in a chain has a `Handle`. Two entries are the same interceptor if their handles are equal; entries
that merely do the same things are not.
-/

namespace Transparency

/-- What an interceptor does about a request. -/
inductive Action where
  /-- the request goes on, perhaps changed -/
  | proceed
  /-- the request is given up -/
  | abort (reason : String)
  /-- this response is the answer; nothing is sent -/
  | mock (response : Response)
  /-- the request goes on after so many milliseconds -/
  | delay (milliseconds : Nat)
  deriving DecidableEq, Repr

/-- Takes part in the exchange of requests and responses. -/
structure Interceptor (σ : Type) where
  /-- what it is called in notes -/
  name : String := "interceptor"
  /-- those with a higher priority come first -/
  priority : Int := 0
  /-- whether it cares about a request -/
  accepts : Request → σ → Bool := fun _ _ => true
  /-- what it does about a request, the request it leaves, and the state after it -/
  beforeRequest : Request → σ → Action × Request × σ := fun request s => (.proceed, request, s)
  /-- whether it lets a response pass, the response it leaves, and the state after it -/
  afterResponse : Request → Response → σ → Except Error Unit × Response × σ :=
    fun _ response s => (.ok (), response, s)
  /-- the state after an error of sending -/
  onError : Request → Error → σ → σ := fun _ _ s => s

/-- Tells interceptors apart. -/
structure Handle where
  label : String
  deriving DecidableEq, Repr

/-- An interceptor that can be told apart from others. -/
structure Entry (σ : Type) extends Interceptor σ where
  handle : Handle

namespace Entry

variable {σ : Type}

/-- Whether an entry is the interceptor of a handle. -/
def isOf (entry : Entry σ) (handle : Handle) : Bool := entry.handle = handle

/-- Whether two entries are the same interceptor. -/
def isSame (entry other : Entry σ) : Bool := entry.isOf other.handle

end Entry

/-- Writes requests, responses and errors into the journal. It comes last, so that it sees what the others left. -/
structure RequestLogger where
  /-- whether bodies are written too -/
  logResponses : Bool := false
  /-- only URLs that contain this text are written about -/
  urlFilter : Option String := none
  deriving DecidableEq, Repr

namespace Text

/-- Whether a list of characters starts with another. -/
def startsWith : (text start : List Char) → Bool
  | _, [] => true
  | [], _ :: _ => false
  | c :: text, d :: start => c = d && startsWith text start

/-- Whether a list of characters occurs in another. -/
def occursIn (part : List Char) : (text : List Char) → Bool
  | [] => part = []
  | c :: text => startsWith (c :: text) part || occursIn part text

end Text

namespace RequestLogger

/-- Whether a request is written about. -/
def accepts (logger : RequestLogger) (request : Request) : Bool :=
  match logger.urlFilter with
  | some part => Text.occursIn part.toList request.url.render.toList
  | none => true

/-- The logger as an interceptor. -/
def toInterceptor {σ : Type} [Journal σ] (logger : RequestLogger) : Interceptor σ where
  name := "request-logger"
  priority := -100
  accepts request _ := logger.accepts request
  beforeRequest request s :=
    (.proceed, request, note .info "Request" [("method", request.method), ("url", request.url.render)] s)
  afterResponse request response s :=
    let s := note .info "Response" [("url", request.url.render), ("status", response.status.render),
      ("tls", if response.certificate.isSome then "true" else "false")] s
    let s := if logger.logResponses then note .debug "Response body" [("body", response.lossyText)] s else s
    (.ok (), response, s)
  onError request error s :=
    note .warn "Request failed" [("url", request.url.render), ("error", error.message)] s

end RequestLogger

end Transparency
