import Transparency.Client.Builder
import Transparency.Client.Execution
import Transparency.Command.Machine
import Transparency.Command.Report

/-!
# Fetching

All URLs are fetched by one client. Its builder has a manager as its only pass, so the client checks certificates if
the preference is on. The first line tells whether it does. If then every argument is a URL, there is one more line
for each of them, in the order of the arguments.
-/

namespace Transparency

namespace Command

variable {ν : Type}

/-- The manager of the client. It follows the preference in the file that the options name. -/
def manager (options : Options) : Manager (Machine ν) where
  handle := ⟨"certificate-transparency"⟩
  readPreference machine := ((options.file.load machine.files).map (·.transparency), machine)
  makeVerifier machine := ((PresenceVerifier.ofMinimum options.minimum).map (·.toVerifier), machine)
  policy := { failOnError := !options.reportOnly }
  debouncer := ⟨Machine.streak, Sink.journal⟩

/-- The builder of the client. -/
def builder (options : Options) : Builder (Machine ν) (Machine ν × ManagerState (Machine ν)) :=
  let builder := ({} : Builder _ _).addPass ((manager options).toPass Cell.second Cell.first)
  if options.verbose then
    builder.addInterceptor { ({} : RequestLogger).toInterceptor with handle := ⟨"request-logger"⟩ }
  else builder

/-- The request for what an argument points to. -/
def requestOf (options : Options) (target : String) : Except Error Request :=
  (Request.get target).map fun request => { request with timeout := some (options.timeout * 1000) }

/-- The requests for all arguments, or the first error. -/
def requestsOf (options : Options) : List String → Except Error (List Request)
  | [] => .ok []
  | target :: rest =>
    match requestOf options target with
    | .error error => .error error
    | .ok request => (requestsOf options rest).map (request :: ·)

/-- The line about what came of an argument. -/
def lineOf (target : String) : Except Error Response → String
  | .ok response =>
    toString response.status.code ++ " " ++ target ++ " (" ++ toString response.body.length ++ " bytes)"
  | .error error =>
    if error.isCertificateTransparency then "CT  " ++ target ++ " " ++ error.message
    else "ERR " ++ target ++ " " ++ error.message ++ (if error.isRecoverable then " (retryable)" else "")

/-- Whether a request failed. -/
def isFailed : Except Error Response → Bool
  | .ok _ => false
  | .error _ => true

/-- Fetches the positional arguments. -/
def fetch (network : Transport ν) (options : Options) (machine : Machine ν) :
    Except CommandFault Unit × List String × Machine ν :=
  if options.positional = [] then (.error .noTarget, [], machine)
  else
    match (builder options).build (machine, {}) with
    | (.error error, _, machine, _) => (.error (.build error), [], machine)
    | (.ok client, _, machine, state) =>
      let heading := "CT verification: " ++ stateWord state.isEnabled
      match requestsOf options options.positional with
      | .error error => (.error (.target error), [heading], machine)
      | .ok requests =>
        let (results, machine) := client.executeAll (Machine.transport network) requests machine
        let failed := (results.filter isFailed).length
        (if failed = 0 then .ok () else .error (.requests failed options.positional.length),
          heading :: List.zipWith lineOf options.positional results, machine)

end Command

end Transparency
