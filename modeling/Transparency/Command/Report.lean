import Transparency.Command.Options

/-!
# Reports of the program

A run of the program ends with a number, which is zero if all went well, and has written lines: what was asked for to
one place, and what went wrong to another. A command that fails writes one line about its fault. The fault of an
operation that only wraps another comes with the message of that other after its own.
-/

namespace Transparency

/-- What a run of the program shows. -/
structure Report where
  exit : Nat
  /-- what was asked for -/
  stdout : String := ""
  /-- what went wrong -/
  stderr : String := ""
  deriving DecidableEq, Repr

/-- Why a command failed. -/
inductive CommandFault where
  | option (fault : OptionFault)
  /-- there is nothing to fetch -/
  | noTarget
  /-- no client can be made -/
  | build (error : Error)
  /-- an argument is no URL -/
  | target (error : Error)
  /-- so many requests of all failed -/
  | requests (failed total : Nat)
  /-- an argument is neither `on` nor `off` nor `show` -/
  | unknownState (word : String)
  /-- the preference was not stored -/
  | store (error : Error)
  /-- the preference cannot be shown -/
  | load (path : String) (error : Error)
  deriving Repr

/-- The message of an error, and that of its cause. -/
def Error.messageWithCause (error : Error) : String :=
  match error.causeMessage? with
  | some cause => error.message ++ ": " ++ cause
  | none => error.message

/-- What a fault is called in messages. -/
def CommandFault.message : CommandFault → String
  | .option fault => fault.message
  | .noTarget => "Usage: ctswitch fetch <url>..."
  | .build error => "Failed to build HTTP client: " ++ error.messageWithCause
  | .target error => "Invalid URL: " ++ error.messageWithCause
  | .requests failed total => toString failed ++ " of " ++ toString total ++ " requests failed"
  | .unknownState word => "Expected on, off or show, got '" ++ word ++ "'"
  | .store error => error.messageWithCause
  | .load path error => "Reading " ++ path ++ ": " ++ error.messageWithCause

/-- How a preference is shown. -/
def stateWord (isOn : Bool) : String := if isOn then "on" else "off"

namespace Report

/-- Lines of text, each with its end. -/
def ofLines (lines : List String) : String := String.join (lines.map (· ++ "\n"))

/-- The report of a command by its fault, if it has one, and the lines it wrote before. -/
def ofCommand (result : Except CommandFault Unit) (lines : List String) : Report :=
  match result with
  | .ok () => { exit := 0, stdout := ofLines lines }
  | .error fault => { exit := 2, stdout := ofLines lines, stderr := ofLines ["Error: " ++ fault.message] }

end Report

end Transparency
