import Transparency.Command.Fetch
import Transparency.Command.Preference

/-!
# Running the program

The first argument names the command. Without a command, or with an unknown one, the usage is shown and the run fails.
-/

namespace Transparency

namespace Command

variable {ν : Type}

/-- How the program is used. -/
def usage : String := Report.ofLines
  ["ctswitch - Runtime-toggleable Certificate Transparency",
    "",
    "USAGE:",
    "    ctswitch <COMMAND> [OPTIONS]",
    "",
    "COMMANDS:",
    "    fetch <url>...          Fetch URLs concurrently, verifying CT when the preference is on",
    "    prefs [on|off|show]     Show or change the CT preference",
    "    help                    Print this help",
    "    version                 Print version",
    "",
    "OPTIONS:",
    "    --prefs <file>          Preference file (default: $CTSWITCH_PREFS or " ++ PreferenceFile.default.path ++ ")",
    "    --min-scts <n>          Embedded SCTs required (fetch only, default: 2)",
    "    --timeout <secs>        Per-request timeout (fetch only, default: 30)",
    "    --report-only           Log CT failures without failing requests",
    "    --verbose               Log every request and response",
    "",
    "ENVIRONMENT:",
    "    RUST_LOG                Log filter (default: ctswitch=info)",
    ""]

/-- Runs a command with the options that its arguments spell. -/
def runWith (command : Options → Machine ν → Except CommandFault Unit × List String × Machine ν)
    (environmentFile : Option String) (arguments : List String) (machine : Machine ν) : Report × Machine ν :=
  match Options.read environmentFile arguments with
  | .error fault => (Report.ofCommand (.error (.option fault)) [], machine)
  | .ok options =>
    let (result, lines, machine) := command options machine
    (Report.ofCommand result lines, machine)

/-- Runs the program. -/
def run (network : Transport ν) (environmentFile : Option String) (arguments : List String) (machine : Machine ν) :
    Report × Machine ν :=
  match arguments with
  | [] => ({ exit := 1, stdout := usage }, machine)
  | command :: rest =>
    if command = "fetch" then runWith (fetch network) environmentFile rest machine
    else if command = "prefs" then runWith preference environmentFile rest machine
    else if ["--help", "-h", "help"].contains command then ({ exit := 0, stdout := usage }, machine)
    else if ["--version", "-v", "version"].contains command then
      ({ exit := 0, stdout := Report.ofLines ["ctswitch " ++ version] }, machine)
    else
      ({ exit := 1, stdout := usage, stderr := Report.ofLines ["Unknown command: " ++ command] }, machine)

end Command

end Transparency
