import Transparency.Chain.Process

/-!
# Clients

A client sends requests through its chain. The chain may answer a request or give it up; otherwise the request goes
to the transport as the chain left it. A response then goes through the chain, and an error of sending is told to it.

The transport is any function from requests to responses or errors, so everything said about clients holds for every
network.
-/

namespace Transparency

/-- The version of this program. -/
def version : String := "0.1.0"

/-- What a client calls itself, unless it is told otherwise. -/
def defaultUserAgent : String := "ctswitch/" ++ version

/-- How a client is set up. -/
structure ClientConfig where
  userAgent : String := defaultUserAgent
  /-- how long to wait for a response, in milliseconds -/
  timeout : Nat := 30000
  /-- how many redirects are followed -/
  maxRedirects : Nat := 10
  /-- headers of requests that do not have them -/
  defaultHeaders : Headers := [("accept", "*/*")]
  /-- the URL of a proxy, as text -/
  proxy : Option String := none
  deriving DecidableEq, Repr

namespace ClientConfig

/-- What keeps a configuration from being used, if anything. The proxy is looked at first. -/
def error? (config : ClientConfig) : Option Error :=
  match config.proxy.map Url.parseProxy with
  | some (.error fault) => some (.config (.proxy fault))
  | _ => if Http.isHeaderValue config.userAgent then none else some (.http .badHeaderValue)

end ClientConfig

/-- Sends requests and brings back what comes of them. -/
abbrev Transport (σ : Type) := Request → σ → Except Error Response × σ

/-- Sends requests through a chain. -/
structure Client (σ : Type) where
  config : ClientConfig
  chain : Chain σ

namespace Client

variable {σ : Type} [Journal σ]

/-- A client with a chain, if its configuration can be used. -/
def make (config : ClientConfig) (chain : Chain σ) : Except Error (Client σ) :=
  match config.error? with
  | some error => .error error
  | none => .ok ⟨config, chain⟩

/-- Sends a request that has gone through the chain, and sends what comes of it back through the chain. -/
def exchange (client : Client σ) (transport : Transport σ) (request : Request) (s : σ) : Except Error Response × σ :=
  match transport request s with
  | (.error error, s) => (.error error, client.chain.notifyError request error s)
  | (.ok response, s) =>
    match client.chain.processResponse request response s with
    | (.ok (), response, s) => (.ok response, s)
    | (.error error, _, s) => (.error error, s)

/-- The error of a request that an interceptor gave up, and the note of it. -/
def giveUp (request : Request) (reason : String) (s : σ) : Except Error Response × σ :=
  (.error (.aborted request.url.render reason),
    note .debug "Request aborted by interceptor" [("url", request.url.render), ("reason", reason)] s)

/-- Sends a request through the chain and, unless the chain answers it, to the transport. -/
def execute (client : Client σ) (transport : Transport σ) (request : Request) (s : σ) : Except Error Response × σ :=
  match client.chain.processRequest request s with
  | (.abort reason, request, s) => giveUp request reason s
  | (.mock response, _, s) => (.ok response, s)
  | (_, request, s) => client.exchange transport request s

/-- A response that no interceptor made up came over the network: the chain let the request go, it was sent, and the
chain let the response pass. -/
theorem phases_of_execute_ok {client : Client σ} {transport : Transport σ} {request : Request} {s : σ} {r : Response}
    (passed : (client.execute transport request s).1 = .ok r)
    (unmocked : (client.chain.processRequest request s).1 ≠ .mock r) :
    ∃ last s₁ sent s₂ s₃, client.chain.processRequest request s = (.proceed, last, s₁) ∧
      transport last s₁ = (.ok sent, s₂) ∧ client.chain.processResponse last sent s₂ = (.ok (), r, s₃) := by
  have no_delay := fun milliseconds => Chain.processRequest_ne_delay milliseconds client.chain request s
  rw [execute] at passed
  rcases answered : client.chain.processRequest request s with ⟨_ | reason | response | milliseconds, last, s₁⟩
  · rw [answered] at passed
    rcases sending : transport last s₁ with ⟨error | sent, s₂⟩
    · simp [exchange, sending] at passed
    · rcases responded : client.chain.processResponse last sent s₂ with ⟨error | ⟨⟩, response, s₃⟩
      · simp [exchange, sending, responded] at passed
      · simp only [exchange, sending, responded, Except.ok.injEq] at passed
        subst passed
        exact ⟨last, s₁, sent, s₂, s₃, rfl, sending, responded⟩
  · rw [answered] at passed
    cases passed
  · rw [answered] at passed unmocked
    obtain rfl := Except.ok.inj passed
    exact absurd rfl unmocked
  · exact absurd (congrArg Prod.fst answered) (no_delay milliseconds)

/-- Asks for what a text points to. -/
def get (client : Client σ) (transport : Transport σ) (text : String) (s : σ) : Except Error Response × σ :=
  match Request.get text with
  | .error error => (.error error, s)
  | .ok request => client.execute transport request s

end Client

end Transparency
