import Transparency.Command.Machine
import Transparency.Command.Report

/-!
# Showing and changing the preference

The first positional argument tells what to do: `on` and `off` store the preference, `show` or nothing leaves it.
Then the preference is read and shown.
-/

namespace Transparency

namespace Command

variable {ν : Type}

/-- What the first positional argument asks to be stored, if anything. -/
def valueToStore? : List String → Except CommandFault (Option Bool)
  | [] => .ok none
  | word :: _ =>
    if word = "show" then .ok none
    else if word = "on" then .ok (some true)
    else if word = "off" then .ok (some false)
    else .error (.unknownState word)

/-- The files after the preference was stored, if that was asked for. -/
def storeIfAsked (file : PreferenceFile) (value? : Option Bool) (files : FileSystem) :
    Except CommandFault FileSystem :=
  match value? with
  | none => .ok files
  | some value => (file.store value files).mapError .store

/-- The line that shows the preference. -/
def show? (file : PreferenceFile) (files : FileSystem) : Except CommandFault String :=
  match file.load files with
  | .error error => .error (.load file.path error)
  | .ok preferences => .ok (file.path ++ ": certificate transparency " ++ stateWord preferences.transparency)

/-- Changes the preference as asked, and shows it. -/
def preference (options : Options) (machine : Machine ν) : Except CommandFault Unit × List String × Machine ν :=
  match valueToStore? options.positional with
  | .error fault => (.error fault, [], machine)
  | .ok value? =>
    match storeIfAsked options.file value? machine.files with
    | .error fault => (.error fault, [], machine)
    | .ok files =>
      let machine := { machine with files }
      match show? options.file files with
      | .error fault => (.error fault, [], machine)
      | .ok line => (.ok (), [line], machine)

end Command

end Transparency
