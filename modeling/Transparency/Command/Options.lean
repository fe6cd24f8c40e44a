import Transparency.Decimal.Natural
import Transparency.Preferences.File
import Transparency.Verifier

/-!
# Options of the command line

Arguments are read from the front, in groups of one or two. An option that has a value takes the argument after it,
whatever that looks like. Any argument that does not start with two dashes is positional, and options and positional
arguments may follow each other in any order.

* `Setting.readAll` splits arguments into their groups, or finds the first that is at fault.
* `Options.ofSettings` lets the settings change the options one after the other, so the last of a kind counts.
-/

namespace Transparency

/-- What is wrong with the arguments. -/
inductive OptionFault where
  | noFile
  | noMinimum
  | badMinimum (fault : Decimal.NaturalFault)
  | noTimeout
  | badTimeout (fault : Decimal.NaturalFault)
  | unknown (word : String)
  deriving DecidableEq, Repr

/-- What a fault is called in messages. -/
def OptionFault.message : OptionFault → String
  | .noFile => "--prefs needs a file"
  | .noMinimum => "--min-scts needs a number"
  | .badMinimum fault => "--min-scts must be a number: " ++ fault.message
  | .noTimeout => "--timeout needs a number of seconds"
  | .badTimeout fault => "--timeout must be a number: " ++ fault.message
  | .unknown word => "Unknown option: " ++ word

/-- What one group of arguments says. -/
inductive Setting where
  | file (path : String)
  | minimum (count : Nat)
  | timeout (seconds : Nat)
  | reportOnly
  | verbose
  | positional (text : String)
  deriving DecidableEq, Repr

namespace Setting

/-- Whether an argument has the form of an option. -/
def isOption (word : String) : Bool := word.toList.take 2 = ['-', '-']

/-- The settings that arguments spell, or the first fault. -/
def readAll : List String → Except OptionFault (List Setting)
  | [] => .ok []
  | word :: rest =>
    if word = "--prefs" then
      match rest with
      | [] => .error .noFile
      | path :: rest => (readAll rest).map (file path :: ·)
    else if word = "--min-scts" then
      match rest with
      | [] => .error .noMinimum
      | number :: rest =>
        match Decimal.readNatural number with
        | .error fault => .error (.badMinimum fault)
        | .ok count => (readAll rest).map (minimum count :: ·)
    else if word = "--timeout" then
      match rest with
      | [] => .error .noTimeout
      | number :: rest =>
        match Decimal.readNatural number with
        | .error fault => .error (.badTimeout fault)
        | .ok seconds => (readAll rest).map (timeout seconds :: ·)
    else if word = "--report-only" then (readAll rest).map (reportOnly :: ·)
    else if word = "--verbose" then (readAll rest).map (verbose :: ·)
    else if isOption word then .error (.unknown word)
    else (readAll rest).map (positional word :: ·)

end Setting

/-- What the arguments and the environment ask for. -/
structure Options where
  /-- where the preferences are kept -/
  file : PreferenceFile := .default
  /-- how many timestamps a certificate has to have -/
  minimum : Nat := PresenceVerifier.default.minimum
  /-- how long to wait for a response, in seconds -/
  timeout : Nat := 30
  /-- whether responses pass even if their check fails -/
  reportOnly : Bool := false
  /-- whether every exchange is logged -/
  verbose : Bool := false
  positional : List String := []
  deriving DecidableEq, Repr

namespace Options

/-- The options without arguments; the environment may name a file. -/
def initial (environmentFile : Option String) : Options :=
  match environmentFile with
  | some path => { file := ⟨path⟩ }
  | none => {}

/-- The options after a setting. -/
def apply (options : Options) : Setting → Options
  | .file path => { options with file := ⟨path⟩ }
  | .minimum minimum => { options with minimum }
  | .timeout timeout => { options with timeout }
  | .reportOnly => { options with reportOnly := true }
  | .verbose => { options with verbose := true }
  | .positional text => { options with positional := options.positional ++ [text] }

/-- The options after settings, in order. -/
def ofSettings (options : Options) (settings : List Setting) : Options :=
  settings.foldl apply options

/-- Reads arguments. -/
def read (environmentFile : Option String) (arguments : List String) : Except OptionFault Options :=
  (Setting.readAll arguments).map (initial environmentFile).ofSettings

end Options

end Transparency
