import Transparency.Proofs.Preferences.File

/-!
# Storing that fails

What a failure of storing leaves behind can be seen only if reading and writing may leave something. So loading and
storing are said here for a `Disk`, on which both have a state to change, and on which writing may fail for reasons of
its own. On the files of this library they are what they were (`PreferenceFile.loadFrom_files`,
`PreferenceFile.storeTo_files`).

Storing loads first, and writes only what it could load. If reading changes nothing, and neither does writing that
fails, then a failure to store leaves no trace (`PreferenceFile.fails_without_trace`).
-/

namespace Transparency

/-- Where files are read and written. Either may fail, and either may change the state. -/
structure Disk (σ : Type) where
  read : String → σ → Except IoFault Bytes × σ
  write : String → Bytes → σ → Except IoFault Unit × σ

namespace Disk

variable {σ : Type}

/-- Reading changes nothing, and neither does writing that fails. -/
structure Orderly (disk : Disk σ) : Prop where
  read : ∀ path s, (disk.read path s).2 = s
  write : ∀ path content s fault, (disk.write path content s).1 = .error fault →
    (disk.write path content s).2 = s

/-- The files of this library. -/
def files : Disk FileSystem where
  read path fs := (fs.read path, fs)
  write path content fs :=
    match fs.write path content with
    | .ok later => (.ok (), later)
    | .error fault => (.error fault, fs)

theorem orderly_files : files.Orderly where
  read _ _ := rfl
  write path content fs fault failed := by
    rw [files] at failed ⊢
    dsimp only at failed ⊢
    split at failed
    · cases failed
    · rfl

end Disk

namespace PreferenceFile

open Preferences

variable {σ : Type} {disk : Disk σ} {file : PreferenceFile} {value : Bool} {s : σ}

/-! ## Loading and storing on a disk -/

/-- The preferences, by what reading the file gave. -/
def understand (file : PreferenceFile) : Except IoFault Bytes → Except Error Preferences
  | .error .noSuchEntry => .ok {}
  | .error fault => .error ((Error.io fault).inPreferences file.path)
  | .ok content => (ofContent content).mapError (Error.inPreferences file.path)

/-- The preferences as they are on a disk. -/
def loadFrom (disk : Disk σ) (file : PreferenceFile) (s : σ) : Except Error Preferences × σ :=
  let (reading, s) := disk.read file.path s
  (file.understand reading, s)

/-- Puts the flag into the file on a disk. -/
def storeTo (disk : Disk σ) (file : PreferenceFile) (value : Bool) (s : σ) : Except Error Unit × σ :=
  match file.loadFrom disk s with
  | (.error error, s) => (.error error, s)
  | (.ok preferences, s) =>
    match disk.write file.path (Utf8.encode { preferences with transparency := value }.render) s with
    | (.error fault, s) => (.error (.io fault), s)
    | (.ok (), s) => (.ok (), s)

/-- Loading looks at what reading the file gives, and at nothing else. -/
theorem load_eq_understand (file : PreferenceFile) (fs : FileSystem) :
    file.load fs = file.understand (fs.read file.path) := by
  rw [load]
  split
  · rename_i missing
    rw [missing, understand]
  · rename_i fault present failed
    rw [failed]
    cases fault <;> first | exact absurd rfl present | rfl
  · rename_i content read
    rw [read, understand]
    rcases ofContent content with error | preferences <;> rfl

theorem loadFrom_files (file : PreferenceFile) (fs : FileSystem) :
    file.loadFrom .files fs = (file.load fs, fs) := by
  rw [load_eq_understand]
  rfl

theorem storeTo_files (file : PreferenceFile) (value : Bool) (fs : FileSystem) :
    file.storeTo .files value fs =
      match file.store value fs with
      | .ok later => (.ok (), later)
      | .error error => (.error error, fs) := by
  rw [storeTo, loadFrom_files, store]
  rcases file.load fs with error | preferences
  · rfl
  · dsimp only [Disk.files]
    rcases fs.write file.path (Utf8.encode (render ⟨value⟩)) with fault | later <;> rfl

/-! ## Failures -/

/-- Every error in loading names the file, and another try may succeed. -/
theorem exists_detail_of_understand {reading : Except IoFault Bytes} {error : Error}
    (failed : file.understand reading = .error error) :
    error.isRecoverable = true ∧ ∃ detail, error = .preference (file.path ++ ": " ++ detail) := by
  have named : ∃ cause : Error, error = cause.inPreferences file.path := by
    unfold understand at failed
    split at failed
    · cases failed
    · exact ⟨_, (Except.error.inj failed).symm⟩
    · rename_i content
      rcases understood : ofContent content with cause | preferences <;> rw [understood] at failed
      · exact ⟨cause, (Except.error.inj failed).symm⟩
      · cases failed
  obtain ⟨cause, rfl⟩ := named
  exact ⟨rfl, cause.message, rfl⟩

theorem state_loadFrom (orderly : disk.Orderly) (file : PreferenceFile) (s : σ) : (file.loadFrom disk s).2 = s :=
  orderly.read file.path s

/-- What cannot be loaded is not written, whatever writing would do. -/
theorem storeTo_of_load_error {error : Error} (orderly : disk.Orderly)
    (unloaded : (file.loadFrom disk s).1 = .error error)
    (write : String → Bytes → σ → Except IoFault Unit × σ) :
    file.storeTo { disk with write } value s = (.error error, s) := by
  have loaded : file.loadFrom { disk with write } s = (.error error, s) :=
    Prod.ext unloaded (state_loadFrom orderly file s)
  rw [storeTo, loaded]

/-- What can be loaded is written with the flag alone. -/
theorem storeTo_of_load_ok {preferences : Preferences} (orderly : disk.Orderly)
    (loaded : (file.loadFrom disk s).1 = .ok preferences) :
    file.storeTo disk value s =
      match disk.write file.path (Utf8.encode (render ⟨value⟩)) s with
      | (.error fault, s) => (.error (.io fault), s)
      | (.ok (), s) => (.ok (), s) := by
  have loaded : file.loadFrom disk s = (.ok preferences, s) := Prod.ext loaded (state_loadFrom orderly file s)
  rw [storeTo, loaded]

theorem storeTo_of_write_error {preferences : Preferences} {fault : IoFault} (orderly : disk.Orderly)
    (loaded : (file.loadFrom disk s).1 = .ok preferences)
    (unwritten : (disk.write file.path (Utf8.encode (render ⟨value⟩)) s).1 = .error fault) :
    file.storeTo disk value s = (.error (.io fault), s) := by
  have wrote : disk.write file.path (Utf8.encode (render ⟨value⟩)) s = (.error fault, s) :=
    Prod.ext unwritten (orderly.write _ _ _ _ unwritten)
  rw [storeTo_of_load_ok orderly loaded, wrote]

/-- How storing may end. -/
theorem storeTo_cases (orderly : disk.Orderly) (file : PreferenceFile) (value : Bool) (s : σ) :
    (∃ error, (file.loadFrom disk s).1 = .error error ∧ file.storeTo disk value s = (.error error, s)) ∨
    (∃ preferences, (file.loadFrom disk s).1 = .ok preferences ∧
      ((∃ fault, (disk.write file.path (Utf8.encode (render ⟨value⟩)) s).1 = .error fault ∧
          file.storeTo disk value s = (.error (.io fault), s)) ∨
        ∃ later, disk.write file.path (Utf8.encode (render ⟨value⟩)) s = (.ok (), later) ∧
          file.storeTo disk value s = (.ok (), later))) := by
  rcases loaded : (file.loadFrom disk s).1 with error | preferences
  · exact .inl ⟨error, rfl, storeTo_of_load_error orderly loaded disk.write⟩
  · refine .inr ⟨preferences, rfl, ?_⟩
    rcases wrote : disk.write file.path (Utf8.encode (render ⟨value⟩)) s with ⟨fault | ⟨⟩, later⟩
    · have unwritten := congrArg Prod.fst wrote
      exact .inl ⟨fault, rfl, storeTo_of_write_error orderly loaded unwritten⟩
    · refine .inr ⟨later, rfl, ?_⟩
      rw [storeTo_of_load_ok orderly loaded, wrote]

/-- **Storing that fails says why and leaves no trace.**

* It fails exactly if loading fails or writing does.
* If loading fails, its error is the error, which names the file and may pass; whatever writing does on the disk makes
  no difference, since nothing is written.
* If writing fails, the error is that of writing.
* After any failure the disk is as it was.

The files of this library are such a disk. -/
theorem fails_without_trace (orderly : disk.Orderly) (file : PreferenceFile) (value : Bool) (s : σ) :
    ((∃ error, (file.storeTo disk value s).1 = .error error) ↔
      (∃ error, (file.loadFrom disk s).1 = .error error) ∨
        ∃ fault, (disk.write file.path (Utf8.encode (render ⟨value⟩)) s).1 = .error fault) ∧
    (∀ error, (file.loadFrom disk s).1 = .error error →
      (∀ write, file.storeTo { disk with write } value s = (.error error, s)) ∧
        error.isRecoverable = true ∧ ∃ detail, error = .preference (file.path ++ ": " ++ detail)) ∧
    (∀ preferences fault, (file.loadFrom disk s).1 = .ok preferences →
      (disk.write file.path (Utf8.encode (render ⟨value⟩)) s).1 = .error fault →
        (file.storeTo disk value s).1 = .error (.io fault)) ∧
    (∀ error, (file.storeTo disk value s).1 = .error error → (file.storeTo disk value s).2 = s) ∧
    Disk.files.Orderly ∧
    ∀ fs : FileSystem, file.loadFrom .files fs = (file.load fs, fs) ∧
      file.storeTo .files value fs =
        match file.store value fs with
        | .ok later => (.ok (), later)
        | .error error => (.error error, fs) := by
  refine ⟨?_, fun error unloaded => ⟨?_, ?_⟩, fun preferences fault loaded unwritten => ?_, ?_, Disk.orderly_files,
    fun fs => ⟨loadFrom_files file fs, storeTo_files file value fs⟩⟩
  · obtain ⟨error, unloaded, stored⟩ | ⟨preferences, loaded, ⟨fault, unwritten, stored⟩ | ⟨later, wrote, stored⟩⟩ :=
      storeTo_cases orderly file value s
    · exact ⟨fun _ => .inl ⟨error, unloaded⟩, fun _ => ⟨error, by rw [stored]⟩⟩
    · exact ⟨fun _ => .inr ⟨fault, unwritten⟩, fun _ => ⟨.io fault, by rw [stored]⟩⟩
    · -- nothing failed, so none of the three can be an error
      rw [stored, loaded, wrote]
      constructor
      · rintro ⟨error, ⟨⟩⟩
      · rintro (⟨error, ⟨⟩⟩ | ⟨fault, ⟨⟩⟩)
  · exact storeTo_of_load_error orderly unloaded
  · exact exists_detail_of_understand unloaded
  · rw [storeTo_of_write_error orderly loaded unwritten]
  · intro error failed
    obtain ⟨_, _, stored⟩ | ⟨_, _, ⟨_, _, stored⟩ | ⟨later, _, stored⟩⟩ := storeTo_cases orderly file value s
    · rw [stored]
    · rw [stored]
    · rw [stored] at failed
      cases failed

end PreferenceFile

namespace Drawer

open PreferenceFile

/-- A file that may not be read is not written, though it may be written. A file without a name counts as missing when
it is read, and cannot be written. -/
theorem slip_is_left_alone :
    (slip.loadFrom .files (holding [] false)).1 =
      .error (.preference "p: I/O error: Permission denied (os error 13)") ∧
    slip.storeTo .files true (holding [] false) =
      (.error (.preference "p: I/O error: Permission denied (os error 13)"), holding [] false) ∧
    (storeTo .files ⟨""⟩ true (.empty ["home"])).1 = .error (.io .noSuchEntry) ∧
    (storeTo .files ⟨""⟩ true (.empty ["home"])).2 = .empty ["home"] := by
  have unloaded : (slip.loadFrom .files (holding [] false)).1 =
      .error (.preference "p: I/O error: Permission denied (os error 13)") := by
    rw [loadFrom_files, load, read_denied]
    rfl
  have unnamed := fails_without_trace Disk.orderly_files ⟨""⟩ true (.empty ["home"])
  have failed := unnamed.2.2.1 {} .noSuchEntry (by cbv) (by cbv)
  exact ⟨unloaded, ((fails_without_trace Disk.orderly_files slip true (holding [] false)).2.1 _ unloaded).1 _, failed,
    unnamed.2.2.2.1 _ failed⟩

end Drawer

end Transparency
