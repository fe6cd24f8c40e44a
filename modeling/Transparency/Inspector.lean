import Transparency.Chain.Process
import Transparency.HostPolicy
import Transparency.Verifier

/-!
# Inspectors

An inspector is the interceptor that checks certificates. For each response it finds the outcome for the host that
served it, reports the outcome, and refuses the response if the check failed and its policy says so. Which request
led to the response does not matter.

The outcome is found in this order: a host that the policy leaves out is not checked; a certificate is judged by the
verifier; without a certificate a TLS connection is a failure, and any other connection is not.
-/

namespace Transparency

/-- Checks the certificates of responses by a policy that has no malformed pattern. -/
structure Inspector (σ : Type) where
  verifier : Verifier σ
  policy : HostPolicy
  /-- told of every outcome -/
  report : (host : String) → Outcome → σ → σ
  valid : policy.firstFault? = none

namespace Inspector

variable {σ : Type}

/-- An inspector by a policy, if the policy has no malformed pattern. -/
def make (verifier : Verifier σ) (policy : HostPolicy) (report : String → Outcome → σ → σ) :
    Except Error (Inspector σ) :=
  match valid : policy.firstFault? with
  | none => .ok ⟨verifier, policy, report, valid⟩
  | some (pattern, fault) => .error (.config (.pattern pattern fault))

/-- The outcome for a response. -/
def evaluate (inspector : Inspector σ) (response : Response) (s : σ) : Outcome × σ :=
  if !inspector.policy.covers response.host then (.success .disabledForHost, s)
  else
    match response.certificate with
    | some certificate => inspector.verifier.verify response.host certificate s
    | none => (if response.isHttps then .failure .noCertificates else .success .insecureConnection, s)

/-- Whether a response passes, by its outcome. -/
def ruling (inspector : Inspector σ) (host : String) : Outcome → Except Error Unit
  | .failure reason =>
    if inspector.policy.failOnError then .error (.certificateTransparency host reason.message) else .ok ()
  | .success _ => .ok ()

/-- Finds the outcome for a response, reports it, and decides. -/
def inspect [Journal σ] (inspector : Inspector σ) (response : Response) (s : σ) : Except Error Unit × σ :=
  let (outcome, s) := inspector.evaluate response s
  let s := note .trace "CT verification" [("host", response.host), ("outcome", outcome.message)] s
  (inspector.ruling response.host outcome, inspector.report response.host outcome s)

/-- The inspector as an interceptor. -/
def toInterceptor [Journal σ] (inspector : Inspector σ) : Interceptor σ where
  name := "certificate-transparency"
  afterResponse _ response s :=
    let (result, s) := inspector.inspect response s
    (result, response, s)

end Inspector

end Transparency
