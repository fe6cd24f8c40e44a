import Transparency.Command.Options

/-!
# Which settings count

The options after some settings, in closed form (`Options.ofSettings_eq`): of the settings with a value the last of each
kind counts, wherever it stands among the others, and what is positional keeps its order.

So the file with the preferences is the one that the arguments name last, else the one that the environment names, else
the default (`Options.spelled_iff`).
-/

namespace Transparency

namespace Setting

/-- The path that a setting names. -/
def path? : Setting → Option String
  | file path => some path
  | _ => none

/-- The number of timestamps that a setting asks for. -/
def count? : Setting → Option Nat
  | minimum count => some count
  | _ => none

/-- The time that a setting gives to responses. -/
def seconds? : Setting → Option Nat
  | timeout seconds => some seconds
  | _ => none

/-- The positional argument that a setting is. -/
def text? : Setting → Option String
  | positional text => some text
  | _ => none

/-- What the last setting of a kind says. -/
def last? {α : Type} (kind : Setting → Option α) (settings : List Setting) : Option α :=
  (settings.filterMap kind).getLast?

/-- An earlier setting counts only if there is no later one of its kind. -/
theorem getD_last?_cons {α : Type} (kind : Setting → Option α) (setting : Setting) (settings : List Setting) (a : α) :
    (last? kind (setting :: settings)).getD a = (last? kind settings).getD ((kind setting).getD a) := by
  rcases given : kind setting with _ | b
  · rw [last?, List.filterMap_cons_none given]
    rfl
  · rw [last?, List.filterMap_cons_some given, List.getLast?_cons]
    rfl

/-- The path to the preferences: the last that the settings name, else that of the environment, else the default. -/
def resolve (environmentFile : Option String) (settings : List Setting) : String :=
  (last? path? settings).getD (environmentFile.getD PreferenceFile.default.path)

end Setting

namespace Options

open Setting

/-- **The last setting of a kind counts.** -/
theorem ofSettings_eq (options : Options) (settings : List Setting) :
    options.ofSettings settings =
      { file := ⟨(last? path? settings).getD options.file.path⟩
        minimum := (last? count? settings).getD options.minimum
        timeout := (last? seconds? settings).getD options.timeout
        reportOnly := options.reportOnly || settings.contains .reportOnly
        verbose := options.verbose || settings.contains .verbose
        positional := options.positional ++ settings.filterMap text? } := by
  induction settings generalizing options with
  | nil => simp [ofSettings, last?]
  | cons setting settings ih =>
    rw [ofSettings, List.foldl_cons, ← ofSettings, ih]
    simp only [getD_last?_cons]
    cases setting <;> simp [apply, path?, count?, seconds?, text?, List.filterMap_cons]

/-- Arguments spell options whose file is at a path. -/
structure Spelled (environmentFile : Option String) (arguments : List String) (path : String) (options : Options) :
    Prop where
  read : Options.read environmentFile arguments = .ok options
  resolved : ∃ settings, Setting.readAll arguments = .ok settings ∧ resolve environmentFile settings = path

/-- The options that arguments spell name the file at the path that the arguments resolve to. -/
theorem spelled_iff {environmentFile : Option String} {arguments : List String} {path : String} {options : Options} :
    Spelled environmentFile arguments path options ↔
      Options.read environmentFile arguments = .ok options ∧ options.file = ⟨path⟩ := by
  have file_eq : ∀ settings, ((initial environmentFile).ofSettings settings).file =
      ⟨resolve environmentFile settings⟩ := by
    intro settings
    rw [ofSettings_eq, resolve]
    rcases environmentFile with _ | path <;> rfl
  constructor
  · rintro ⟨read, settings, split, rfl⟩
    refine ⟨read, ?_⟩
    rw [Options.read, split] at read
    obtain rfl := Except.ok.inj read
    exact file_eq settings
  · rintro ⟨read, file⟩
    refine ⟨read, ?_⟩
    rw [Options.read] at read
    rcases split : Setting.readAll arguments with fault | settings <;> rw [split] at read
    · cases read
    · obtain rfl := Except.ok.inj read
      exact ⟨settings, rfl, congrArg PreferenceFile.path ((file_eq settings).symm.trans file)⟩

end Options

end Transparency
