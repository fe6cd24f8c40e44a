import Transparency.Error
import Transparency.Preferences.Document

/-!
# Preferences in a file

The file is read anew whenever the preferences are asked for. A file that is not there stands for the default
preferences; one that cannot be read, or that holds no preference document, is an error. Storing reads first, so a
file that cannot be understood is never overwritten.
-/

namespace Transparency

/-- A file that holds preferences. -/
structure PreferenceFile where
  path : String
  deriving DecidableEq, Repr

namespace PreferenceFile

/-- The file that is used unless another is named. -/
def default : PreferenceFile where
  path := "ctswitch-prefs.json"

/-- The preferences in a file's content. -/
def ofContent (content : Bytes) : Except Error Preferences :=
  match Utf8.decode content with
  | .error _ => .error (.io .notText)
  | .ok _ =>
    match Preferences.read content with
    | .error fault => .error (.serialization fault)
    | .ok preferences => .ok preferences

/-- The preferences as they are now. -/
def load (file : PreferenceFile) (fs : FileSystem) : Except Error Preferences :=
  match fs.read file.path with
  | .error .noSuchEntry => .ok {}
  | .error fault => .error ((Error.io fault).inPreferences file.path)
  | .ok content =>
    match ofContent content with
    | .error error => .error (error.inPreferences file.path)
    | .ok preferences => .ok preferences

/-- Puts the flag into the file. -/
def store (file : PreferenceFile) (value : Bool) (fs : FileSystem) : Except Error FileSystem :=
  match file.load fs with
  | .error error => .error error
  | .ok preferences =>
    let content := Utf8.encode { preferences with transparency := value }.render
    match fs.write file.path content with
    | .error fault => .error (.io fault)
    | .ok fs => .ok fs

end PreferenceFile

end Transparency
