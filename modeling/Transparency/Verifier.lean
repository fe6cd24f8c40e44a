import Transparency.Certificate.Basic
import Transparency.Error
import Transparency.Journal
import Transparency.Outcome

/-!
# Verifiers

A verifier says for a host and the certificate it showed what to think of the connection. It may be any function, and
may keep state of its own.

The verifier that comes with the library asks for a number of timestamps in the certificate. It does not check their
signatures, and it does not care about the host.
-/

namespace Transparency

/-- Judges the certificate that a host showed. -/
structure Verifier (σ : Type) where
  verify : (host : String) → (certificate : Bytes) → σ → Outcome × σ

/-- Asks for a number of timestamps, one at least. -/
structure PresenceVerifier where
  minimum : Nat
  minimum_pos : 0 < minimum := by omega
  deriving DecidableEq, Repr

namespace PresenceVerifier

/-- The verifier that asks for two timestamps. -/
def default : PresenceVerifier where
  minimum := 2

/-- The verifier that asks for a number of timestamps, if that is not none. -/
def ofMinimum (minimum : Nat) : Except Error PresenceVerifier :=
  if h : 0 < minimum then .ok ⟨minimum, h⟩ else .error (.verifier .noMinimum)

/-- What a number of timestamps means. -/
def verdict (verifier : PresenceVerifier) (found : Nat) : Outcome :=
  if found = 0 then .failure .noTimestamps
  else if found < verifier.minimum then .failure (.tooFewTimestamps found verifier.minimum)
  else .success (.trusted found)

/-- What a certificate means. -/
def judge (verifier : PresenceVerifier) (certificate : Bytes) : Outcome :=
  match Certificate.parse certificate with
  | .error fault => .failure (.unparseableCertificate fault.message)
  | .ok certificate => verifier.verdict certificate.timestamps.length

/-- The verifier with a note on certificates that cannot be read. -/
def toVerifier {σ : Type} [Journal σ] (verifier : PresenceVerifier) : Verifier σ where
  verify host certificate s :=
    let s := match Certificate.parse certificate with
      | .error fault =>
        note .debug "Failed to parse peer certificate" [("host", host), ("error", fault.message)] s
      | .ok _ => s
    (verifier.judge certificate, s)

end PresenceVerifier

end Transparency
