import Transparency.FileSystem
import Transparency.HostPolicy
import Transparency.Http.Fault
import Transparency.Json.Fault
import Transparency.Text.Utf8

/-!
# Errors

Everything that an operation of this library can fail with, by its cause. A failed check of a certificate is an
error only where the policy says that it refuses the response.
-/

namespace Transparency

/-- Why a verifier cannot be made. -/
inductive VerifierFault where
  /-- a verifier that asks for no timestamps would trust everything -/
  | noMinimum
  | other (detail : String)
  deriving DecidableEq, Repr

/-- What a fault is called in messages. -/
def VerifierFault.message : VerifierFault → String
  | .noMinimum => "min_scts must be at least 1"
  | .other detail => detail

/-- What is wrong with a configuration. -/
inductive ConfigFault where
  | pattern (text : String) (fault : PatternFault)
  | proxy (fault : ProxyFault)
  | other (detail : String)
  deriving DecidableEq, Repr

/-- What a fault is called in messages. -/
def ConfigFault.message : ConfigFault → String
  | .pattern text fault => fault.message text
  | .proxy fault => "Invalid proxy URL: " ++ fault.message
  | .other detail => detail

/-- Why an operation failed. -/
inductive Error where
  | http (fault : HttpFault)
  | url (fault : UrlFault)
  /-- an interceptor stopped the request -/
  | aborted (target reason : String)
  /-- the certificate of the host was refused -/
  | certificateTransparency (host reason : String)
  | verifier (fault : VerifierFault)
  /-- the preferences cannot be read -/
  | preference (detail : String)
  | config (fault : ConfigFault)
  | io (fault : IoFault)
  | serialization (fault : JsonFault)
  | utf8 (fault : Utf8.Fault)
  deriving Repr

namespace Error

/-- What an error is called in messages. -/
def message : Error → String
  | http fault => "HTTP error: " ++ fault.message
  | url fault => "Invalid URL: " ++ fault.message
  | aborted target reason => "Request to " ++ target ++ " aborted: " ++ reason
  | certificateTransparency host reason => "Certificate Transparency failure for " ++ host ++ ": " ++ reason
  | verifier fault => "Verifier error: " ++ fault.message
  | preference detail => "Preference error: " ++ detail
  | config fault => "Configuration error: " ++ fault.message
  | io fault => "I/O error: " ++ fault.message
  | serialization fault => "Serialization error: " ++ fault.message
  | utf8 fault => "Invalid UTF-8 body: " ++ fault.message

/-- The message of the cause that an error only wraps, if there is one. -/
def causeMessage? : Error → Option String
  | http fault => some fault.message
  | url fault => some fault.message
  | io fault => some fault.message
  | serialization fault => some fault.message
  | utf8 fault => some fault.message
  | _ => none

/-- Whether another try may succeed. -/
def isRecoverable : Error → Bool
  | http fault => fault.isRecoverable
  | preference _ => true
  | io _ => true
  | _ => false

/-- Whether the certificate of a host was refused. -/
def isCertificateTransparency : Error → Bool
  | certificateTransparency .. => true
  | _ => false

/-- The host that was refused. -/
def host? : Error → Option String
  | certificateTransparency host _ => some host
  | _ => none

/-- The error as the reason why the preferences of a source cannot be read. -/
def inPreferences (source : String) (error : Error) : Error :=
  preference (source ++ ": " ++ error.message)

end Error

end Transparency
