/-!
# Outcomes of a check

What became of checking one response. A *success* does not have to mean that timestamps were counted: a connection
without TLS and a host that the policy leaves out are successes too, since nothing was to be checked. Every other
reason is a *failure*.
-/

namespace Transparency

/-- Why a check succeeded. -/
inductive SuccessReason where
  /-- the certificate carries this many timestamps, enough for the verifier -/
  | trusted (timestamps : Nat)
  /-- the connection had no certificate to check -/
  | insecureConnection
  /-- the host policy leaves the host out -/
  | disabledForHost
  deriving DecidableEq, Repr

/-- Why a check failed. -/
inductive FailureReason where
  /-- a TLS connection showed no certificate -/
  | noCertificates
  /-- the certificate carries no timestamp -/
  | noTimestamps
  /-- the certificate carries `found` timestamps where `required` are asked for -/
  | tooFewTimestamps (found required : Nat)
  /-- the certificate could not be read -/
  | unparseableCertificate (detail : String)
  /-- a reason of the verifier's own -/
  | other (detail : String)
  deriving DecidableEq, Repr

/-- What became of checking one response. -/
inductive Outcome where
  | success (reason : SuccessReason)
  | failure (reason : FailureReason)
  deriving DecidableEq, Repr

/-- What a reason for success is called in messages. -/
def SuccessReason.message : SuccessReason → String
  | .trusted timestamps => s!"trusted with {timestamps} SCTs"
  | .insecureConnection => "insecure connection"
  | .disabledForHost => "disabled for host"

/-- What a reason for failure is called in messages. -/
def FailureReason.message : FailureReason → String
  | .noCertificates => "no certificates"
  | .noTimestamps => "no SCTs present"
  | .tooFewTimestamps found required => s!"too few SCTs ({found} of {required} required)"
  | .unparseableCertificate detail => s!"unparseable certificate: {detail}"
  | .other detail => detail

namespace Outcome

/-- Whether the check failed. -/
def isFailure : Outcome → Bool
  | failure _ => true
  | success _ => false

/-- Whether the check succeeded. -/
def isSuccess (outcome : Outcome) : Bool := !outcome.isFailure

/-- What an outcome is called in messages. -/
def message : Outcome → String
  | success reason => s!"Success: {reason.message}"
  | failure reason => s!"Failure: {reason.message}"

end Outcome

end Transparency
