import Transparency.Command.Run
import Transparency.Network
import Transparency.Proofs.Command.Fetch
import Transparency.Proofs.Command.Options
import Transparency.Proofs.Preferences.File

/-!
# Commands that agree

The commands meet in the file with the preferences. What a run may do to files is said once (`Command.files_run`): it
stores what it was asked to store, or does nothing at all; a failure leaves the whole machine as it was
(`Command.eq_of_exit_ne_zero`).

So a value that was stored stays until somebody else changes the file (`Command.Undisturbed.load_eq`), and meanwhile
every run on the file shows it, whichever command it is. `Command.commands_agree` adds what the commands make of files
that they cannot load.
-/

namespace Transparency

/-! ## Reports -/

namespace Report

theorem ofLines_cons (line : String) (lines : List String) :
    ofLines (line :: lines) = line ++ "\n" ++ ofLines lines := by
  rw [ofLines, List.map_cons, String.join_cons]
  rfl

theorem stdout_ofCommand (result : Except CommandFault Unit) (lines : List String) :
    (ofCommand result lines).stdout = ofLines lines := by
  rcases result with fault | ⟨⟩ <;> rfl

end Report

namespace Command

variable {ν : Type} {options : Options} {machine : Machine ν} {network : Transport ν} {path : String} {value : Bool}
  {environmentFile : Option String} {arguments : List String}

/-! ## Showing and changing the preference -/

theorem valueToStore?_eq_some_iff {words : List String} :
    valueToStore? words = .ok (some value) ↔ words.head? = some (stateWord value) := by
  rcases words with _ | ⟨word, words⟩
  · exact ⟨nofun, nofun⟩
  · rw [valueToStore?, List.head?_cons, Option.some_inj]
    split_ifs with shows on off
    · cases value <;> simp [shows, stateWord]
    · cases value <;> simp [on, stateWord]
    · cases value <;> simp [off, stateWord]
    · cases value <;> simp [on, off, stateWord]

/-- The words that ask for the preference to be shown as it is. -/
theorem valueToStore?_of_show {words : List String} (shows : words = [] ∨ words.head? = some "show") :
    valueToStore? words = .ok none := by
  rcases words with _ | ⟨word, words⟩
  · rfl
  · obtain nothing | shows := shows
    · cases nothing
    · obtain rfl := Option.some.inj shows
      rfl

/-- How showing and changing the preference ends: with which result, which lines, and on which machine. -/
inductive Answer (options : Options) (machine : Machine ν) :
    Except CommandFault Unit → List String → Machine ν → Prop where
  /-- whatever goes wrong, nothing has changed -/
  | refused (fault : CommandFault) : Answer options machine (.error fault) [] machine
  /-- the preference is shown as it is -/
  | shown {value : Bool} : valueToStore? options.positional = .ok none →
      options.file.load machine.files = .ok ⟨value⟩ →
      Answer options machine (.ok ()) [options.file.path ++ ": certificate transparency " ++ stateWord value] machine
  /-- the preference is shown as it was stored -/
  | stored {value : Bool} {files : FileSystem} : valueToStore? options.positional = .ok (some value) →
      options.file.store value machine.files = .ok files →
      Answer options machine (.ok ()) [options.file.path ++ ": certificate transparency " ++ stateWord value]
        { machine with files }

theorem show?_of_load {file : PreferenceFile} {files : FileSystem} (loaded : file.load files = .ok ⟨value⟩) :
    show? file files = .ok (file.path ++ ": certificate transparency " ++ stateWord value) := by
  rw [show?, loaded]

theorem preference_of_load (shows : valueToStore? options.positional = .ok none)
    (loaded : options.file.load machine.files = .ok ⟨value⟩) :
    preference options machine =
      (.ok (), [options.file.path ++ ": certificate transparency " ++ stateWord value], machine) := by
  simp only [preference, shows, storeIfAsked, show?_of_load loaded]

theorem preference_of_load_error {error : Error} (shows : valueToStore? options.positional = .ok none)
    (unloaded : options.file.load machine.files = .error error) :
    preference options machine = (.error (.load options.file.path error), [], machine) := by
  simp only [preference, shows, storeIfAsked, show?, unloaded]

/-- What was stored can be shown. -/
theorem preference_of_store {files : FileSystem} (asks : valueToStore? options.positional = .ok (some value))
    (stored : options.file.store value machine.files = .ok files) :
    preference options machine =
      (.ok (), [options.file.path ++ ": certificate transparency " ++ stateWord value], { machine with files }) := by
  simp only [preference, asks, storeIfAsked, stored, Except.mapError,
    show?_of_load (PreferenceFile.load_of_store stored)]

/-- **Showing and changing the preference ends in one of these ways.** -/
theorem exists_answer (options : Options) (machine : Machine ν) :
    ∃ result lines later, preference options machine = (result, lines, later) ∧
      Answer options machine result lines later := by
  rcases asked : valueToStore? options.positional with fault | _ | value
  · refine ⟨.error fault, [], machine, ?_, .refused fault⟩
    rw [preference, asked]
  · rcases loaded : options.file.load machine.files with error | ⟨value⟩
    · exact ⟨_, _, _, preference_of_load_error asked loaded, .refused _⟩
    · exact ⟨_, _, _, preference_of_load asked loaded, .shown asked loaded⟩
  · rcases stored : options.file.store value machine.files with error | files
    · refine ⟨.error (.store error), [], machine, ?_, .refused _⟩
      simp only [preference, asked, storeIfAsked, stored, Except.mapError]
    · exact ⟨_, _, _, preference_of_store asked stored, .stored asked stored⟩

/-! ## What a run does to the files -/

theorem run_fetch : run network environmentFile ("fetch" :: arguments) machine =
    runWith (fetch network) environmentFile arguments machine := by
  rw [run, if_pos rfl]

theorem run_prefs : run network environmentFile ("prefs" :: arguments) machine =
    runWith preference environmentFile arguments machine := by
  rw [run, if_neg (by decide), if_pos rfl]

theorem runWith_of_read {command : Options → Machine ν → Except CommandFault Unit × List String × Machine ν}
    (read : Options.read environmentFile arguments = .ok options) :
    runWith command environmentFile arguments machine =
      (Report.ofCommand (command options machine).1 (command options machine).2.1,
        (command options machine).2.2) := by
  rw [runWith, read]

/-- The arguments of a run ask for a value to be stored in a file. -/
def Asks (environmentFile : Option String) (arguments : List String) (file : PreferenceFile) (value : Bool) : Prop :=
  ∃ rest options, arguments = "prefs" :: rest ∧ Options.read environmentFile rest = .ok options ∧
    options.file = file ∧ options.positional.head? = some (stateWord value)

/-- **A run stores what it was asked to store, or leaves the files as they were.** -/
theorem files_run (network : Transport ν) (environmentFile : Option String) (arguments : List String)
    (machine : Machine ν) :
    (run network environmentFile arguments machine).2.files = machine.files ∨
      ∃ file value, Asks environmentFile arguments file value ∧
        file.store value machine.files = .ok (run network environmentFile arguments machine).2.files := by
  rcases arguments with _ | ⟨command, rest⟩
  · exact .inl rfl
  by_cases fetches : command = "fetch"
  · subst fetches
    rw [run_fetch]
    rcases read : Options.read environmentFile rest with fault | options
    · rw [runWith, read]
      exact .inl rfl
    · rw [runWith_of_read read]
      exact .inl (files_fetch network options machine)
  by_cases prefers : command = "prefs"
  · subst prefers
    rw [run_prefs]
    rcases read : Options.read environmentFile rest with fault | options
    · rw [runWith, read]
      exact .inl rfl
    · obtain ⟨result, lines, later, ran, answer⟩ := exists_answer options machine
      rw [runWith_of_read read, ran]
      cases answer with
      | refused | shown => exact .inl rfl
      | stored asked stored =>
        exact .inr ⟨_, _, ⟨rest, options, rfl, read, rfl, valueToStore?_eq_some_iff.mp asked⟩, stored⟩
  · rw [run, if_neg fetches, if_neg prefers]
    split_ifs <;> exact .inl rfl

/-- **Showing and changing the preference fails without a trace.** -/
theorem eq_of_exit_ne_zero
    (failed : (run network environmentFile ("prefs" :: arguments) machine).1.exit ≠ 0) :
    (run network environmentFile ("prefs" :: arguments) machine).2 = machine := by
  rw [run_prefs] at failed ⊢
  rcases read : Options.read environmentFile arguments with fault | options
  · rw [runWith, read]
  · obtain ⟨result, lines, later, ran, answer⟩ := exists_answer options machine
    rw [runWith_of_read read, ran] at failed ⊢
    cases answer with
    | refused => rfl
    | shown | stored => exact absurd rfl failed

/-! ## Runs on a file -/

/-- A run that stores a value in a file, and does not fail, leaves the value there. -/
theorem load_of_run_prefs (spelled : Options.Spelled environmentFile arguments path options)
    (asks : options.positional.head? = some (stateWord value))
    (passed : (run network environmentFile ("prefs" :: arguments) machine).1.exit = 0) :
    PreferenceFile.load ⟨path⟩ (run network environmentFile ("prefs" :: arguments) machine).2.files = .ok ⟨value⟩ := by
  obtain ⟨read, file⟩ := Options.spelled_iff.mp spelled
  obtain ⟨result, lines, later, ran, answer⟩ := exists_answer options machine
  rw [run_prefs, runWith_of_read read, ran] at passed ⊢
  have wanted := valueToStore?_eq_some_iff.mpr asks
  cases answer with
  | refused => cases passed
  | shown asked => cases wanted.symm.trans asked
  | stored asked stored =>
    cases wanted.symm.trans asked
    rw [← file]
    exact PreferenceFile.load_of_store stored

theorem run_prefs_of_show (spelled : Options.Spelled environmentFile arguments path options)
    (shows : options.positional = [] ∨ options.positional.head? = some "show")
    (loaded : PreferenceFile.load ⟨path⟩ machine.files = .ok ⟨value⟩) :
    run network environmentFile ("prefs" :: arguments) machine =
      ({ exit := 0, stdout := path ++ ": certificate transparency " ++ stateWord value ++ "\n" }, machine) := by
  obtain ⟨read, file⟩ := Options.spelled_iff.mp spelled
  rw [run_prefs, runWith_of_read read, preference_of_load (valueToStore?_of_show shows) (file ▸ loaded), file]
  rfl

/-- What cannot be loaded cannot be shown. -/
theorem run_prefs_of_error {error : Error} (spelled : Options.Spelled environmentFile arguments path options)
    (shows : options.positional = [] ∨ options.positional.head? = some "show")
    (unloaded : PreferenceFile.load ⟨path⟩ machine.files = .error error) :
    (run network environmentFile ("prefs" :: arguments) machine).1.exit = 2 := by
  obtain ⟨read, file⟩ := Options.spelled_iff.mp spelled
  rw [run_prefs, runWith_of_read read, preference_of_load_error (valueToStore?_of_show shows) (file ▸ unloaded)]
  rfl

/-- Unless it asks for no timestamps, a fetch begins with whether the preference is on. -/
theorem exists_stdout_of_fetch (network : Transport ν) (machine : Machine ν)
    (spelled : Options.Spelled environmentFile arguments path options) (asked : options.positional ≠ [])
    (enough : PreferenceFile.load ⟨path⟩ machine.files = .ok ⟨true⟩ → 0 < options.minimum) :
    ∃ isOn rest, (isOn = true ↔ PreferenceFile.load ⟨path⟩ machine.files = .ok ⟨true⟩) ∧
      (run network environmentFile ("fetch" :: arguments) machine).1.stdout =
        "CT verification: " ++ stateWord isOn ++ "\n" ++ rest := by
  obtain ⟨read, file⟩ := Options.spelled_iff.mp spelled
  rw [← file] at enough ⊢
  obtain ⟨isOn, rest, isOn_iff, lines⟩ := exists_lines_of_fetch network machine asked enough
  refine ⟨isOn, Report.ofLines rest, isOn_iff, ?_⟩
  rw [run_fetch, runWith_of_read read, Report.stdout_ofCommand, lines, Report.ofLines_cons]

/-! ## Until somebody else changes the file -/

/-- From one machine to another nobody but the program changed a file, and the program put nothing but a value there.
Meanwhile anything else may have happened; a run that stores something in another file is a part of that. -/
inductive Undisturbed (file : PreferenceFile) (value : Bool) (first : Machine ν) : Machine ν → Prop where
  | here : Undisturbed file value first first
  /-- what goes on outside leaves the file as it is -/
  | outside {machine later : Machine ν} : Undisturbed file value first machine →
      later.files.read file.path = machine.files.read file.path → Undisturbed file value first later
  /-- a run of the program stores nothing, or just that value there -/
  | run {machine : Machine ν} (network : Transport ν) (environmentFile : Option String) (arguments : List String) :
      Undisturbed file value first machine →
      (∀ target wanted, Asks environmentFile arguments target wanted → target = file ∧ wanted = value) →
      Undisturbed file value first (Command.run network environmentFile arguments machine).2

/-- **A value stays in the file until somebody else changes it.** -/
theorem Undisturbed.load_eq {file : PreferenceFile} {first later : Machine ν}
    (undisturbed : Undisturbed file value first later) (loaded : file.load first.files = .ok ⟨value⟩) :
    file.load later.files = .ok ⟨value⟩ := by
  induction undisturbed with
  | here => exact loaded
  | outside _ unchanged ih =>
    rw [PreferenceFile.load, unchanged]
    exact ih
  | @run machine network environmentFile arguments _ allowed ih =>
    obtain unchanged | ⟨target, wanted, asks, stored⟩ := files_run network environmentFile arguments machine
    · rw [unchanged]
      exact ih
    · obtain ⟨rfl, rfl⟩ := allowed target wanted asks
      exact PreferenceFile.load_of_store stored

/-- On a machine every run on the file at a path shows a value, whatever else its arguments say. -/
structure Shows (path : String) (value : Bool) (machine : Machine ν) : Prop where
  prefs : ∀ network environmentFile arguments options, Options.Spelled environmentFile arguments path options →
    (options.positional = [] ∨ options.positional.head? = some "show") →
    run network environmentFile ("prefs" :: arguments) machine =
      ({ exit := 0, stdout := path ++ ": certificate transparency " ++ stateWord value ++ "\n" }, machine)
  fetch : ∀ network environmentFile arguments options, Options.Spelled environmentFile arguments path options →
    options.positional ≠ [] → 0 < options.minimum →
    ∃ rest, (run network environmentFile ("fetch" :: arguments) machine).1.stdout =
      "CT verification: " ++ stateWord value ++ "\n" ++ rest

theorem shows_of_load (loaded : PreferenceFile.load ⟨path⟩ machine.files = .ok ⟨value⟩) : Shows path value machine where
  prefs _ _ _ _ spelled shows := run_prefs_of_show spelled shows loaded
  fetch network _ _ _ spelled asked enough := by
    obtain ⟨isOn, rest, isOn_iff, stdout⟩ := exists_stdout_of_fetch network machine spelled asked fun _ => enough
    have same : isOn = value := by
      rw [loaded] at isOn_iff
      cases value <;> simpa using isOn_iff
    exact ⟨rest, same ▸ stdout⟩

/-- **The commands agree on the preference**, whichever arguments and whichever environment resolve to its path. -/
theorem commands_agree (path : String) :
    -- what was stored is shown from then on
    (∀ (network : Transport ν) environmentFile arguments options value machine,
      Options.Spelled environmentFile arguments path options → options.positional.head? = some (stateWord value) →
      (run network environmentFile ("prefs" :: arguments) machine).1.exit = 0 →
      ∀ later, Undisturbed ⟨path⟩ value (run network environmentFile ("prefs" :: arguments) machine).2 later →
        Shows path value later) ∧
    -- what fails to be stored changes nothing
    (∀ (network : Transport ν) environmentFile arguments machine,
      (run network environmentFile ("prefs" :: arguments) machine).1.exit ≠ 0 →
      (run network environmentFile ("prefs" :: arguments) machine).2 = machine) ∧
    -- the client of a fetch checks certificates exactly if the file says so
    (∀ environmentFile arguments options (machine : Machine ν),
      Options.Spelled environmentFile arguments path options → options.positional ≠ [] → 0 < options.minimum →
      ∃ client built later memory, (builder options).build (machine, {}) = (.ok client, built, later, memory) ∧
        (Checks options client ↔ PreferenceFile.load ⟨path⟩ machine.files = .ok ⟨true⟩)) ∧
    -- what cannot be loaded cannot be shown, and counts as off
    (∀ (network : Transport ν) environmentFile arguments options machine error,
      Options.Spelled environmentFile arguments path options →
      PreferenceFile.load ⟨path⟩ machine.files = .error error →
      ((options.positional = [] ∨ options.positional.head? = some "show") →
        (run network environmentFile ("prefs" :: arguments) machine).1.exit = 2) ∧
      (options.positional ≠ [] → ∃ rest,
        (run network environmentFile ("fetch" :: arguments) machine).1.stdout = "CT verification: off\n" ++ rest)) ∧
    -- a check for no timestamps is refused, and no network has a part in it
    ∀ environmentFile arguments options (machine : Machine ν), Options.Spelled environmentFile arguments path options →
      PreferenceFile.load ⟨path⟩ machine.files = .ok ⟨true⟩ → options.positional ≠ [] → options.minimum = 0 →
      ∃ report : Report, report.exit = 2 ∧ report.stdout = "" ∧
        ∀ network : Transport ν, run network environmentFile ("fetch" :: arguments) machine = (report, machine) := by
  refine ⟨?_, fun _ _ _ _ => eq_of_exit_ne_zero, ?_, ?_, ?_⟩
  · intro network environmentFile arguments options value machine spelled asks passed later undisturbed
    exact shows_of_load (undisturbed.load_eq (load_of_run_prefs spelled asks passed))
  · intro environmentFile arguments options machine spelled asked enough
    obtain ⟨-, file⟩ := Options.spelled_iff.mp spelled
    obtain ⟨result, built, later, memory, build_eq, building⟩ := exists_building options machine
    obtain ⟨client, rfl⟩ := building.exists_client fun _ => enough
    exact ⟨client, built, later, memory, build_eq, file ▸ building.checks_iff⟩
  · intro network environmentFile arguments options machine error spelled unloaded
    refine ⟨fun shows => run_prefs_of_error spelled shows unloaded, fun asked => ?_⟩
    have not_on : PreferenceFile.load ⟨path⟩ machine.files ≠ .ok ⟨true⟩ := by
      rw [unloaded]
      exact nofun
    obtain ⟨isOn, rest, isOn_iff, stdout⟩ := exists_stdout_of_fetch network machine spelled asked (absurd · not_on)
    obtain rfl : isOn = false := Bool.eq_false_iff.mpr (mt isOn_iff.mp not_on)
    exact ⟨rest, stdout⟩
  · intro environmentFile arguments options machine spelled on asked none
    obtain ⟨read, file⟩ := Options.spelled_iff.mp spelled
    refine ⟨.ofCommand (.error (.build (.verifier .noMinimum))) [], rfl, rfl, fun network => ?_⟩
    rw [run_fetch, runWith_of_read read, fetch_of_none network asked (file ▸ on) none]

end Command

namespace Drawer

open Command

/-- A machine on which the file says no. -/
def desk : Machine Unit where
  files := holding (Utf8.encode (Preferences.render ⟨false⟩)) true
  network := ()

/-- A machine on which the file may not be read. -/
def locked : Machine Unit where
  files := holding [] false
  network := ()

/-- Options that name the file and something to fetch. -/
def options (minimum : Nat) : Options where
  file := slip
  minimum := minimum
  positional := ["x"]

theorem exit_on_desk : (run .offline (some "p") ["prefs", "on"] desk).1.exit = 0 := by
  have read : Options.read (some "p") ["on"] = .ok { file := slip, positional := ["on"] } := rfl
  have loaded : slip.load desk.files = .ok ⟨false⟩ := PreferenceFile.load_render (read_holding _)
  obtain ⟨files, stored⟩ : ∃ files, slip.store true desk.files = .ok files := by
    rw [PreferenceFile.store, loaded]
    simp only [desk, write_holding]
    exact ⟨_, rfl⟩
  rw [run_prefs, runWith_of_read read, preference_of_store rfl stored]
  rfl

/-- The preference is switched on: it is shown, and a fetch checks certificates, but not for no timestamps. A word that
says nothing changes nothing, and a file that may not be read counts as off. -/
theorem desk_is_switched_on :
    ∃ later, (run .offline (some "p") ["prefs", "on"] desk).2 = later ∧
      (run .offline none ["prefs", "--prefs", "p", "show"] later).1.stdout = "p: certificate transparency on\n" ∧
      (run .offline none ["prefs", "maybe"] later).2 = later ∧
      (∃ client built machine memory, (builder (options 1)).build (later, {}) = (.ok client, built, machine, memory) ∧
        Checks (options 1) client) ∧
      (run .offline none ["fetch", "x", "--prefs", "p", "--min-scts", "0"] later).1.exit = 2 ∧
      (run .offline none ["prefs", "--prefs", "p"] locked).1.exit = 2 := by
  obtain ⟨agreed, unchanged, checks, unloaded, refused⟩ := commands_agree "p" (ν := Unit)
  have spelled : Options.Spelled (some "p") ["on"] "p" { file := slip, positional := ["on"] } :=
    Options.spelled_iff.mpr ⟨rfl, rfl⟩
  have asks : ["on"].head? = some (stateWord true) := rfl
  have shows := agreed .offline _ _ _ true desk spelled asks exit_on_desk _ .here
  have on := load_of_run_prefs spelled asks exit_on_desk
  refine ⟨_, rfl, ?_, unchanged .offline none ["maybe"] _ ?_, ?_, ?_, ?_⟩
  · rw [shows.prefs .offline none ["--prefs", "p", "show"] { file := slip, positional := ["show"] }
      (Options.spelled_iff.mpr ⟨rfl, rfl⟩) (.inr rfl)]
    rfl
  · rw [run_prefs, runWith_of_read rfl]
    nofun
  · obtain ⟨client, built, machine, memory, build_eq, checks_iff⟩ :=
      checks none ["x", "--prefs", "p", "--min-scts", "1"] (options 1) _ (Options.spelled_iff.mpr ⟨rfl, rfl⟩)
        (by decide) (by decide)
    exact ⟨client, built, machine, memory, build_eq, checks_iff.mpr on⟩
  · obtain ⟨report, exit, -, ran⟩ := refused none ["x", "--prefs", "p", "--min-scts", "0"] (options 0) _
      (Options.spelled_iff.mpr ⟨rfl, rfl⟩) on (by decide) rfl
    rw [ran .offline]
    exact exit
  · obtain ⟨error, failed⟩ : ∃ error, slip.load locked.files = .error error := by
      rw [PreferenceFile.load, locked, read_denied]
      exact ⟨_, rfl⟩
    exact (unloaded .offline none ["--prefs", "p"] { file := slip } locked error
      (Options.spelled_iff.mpr ⟨rfl, rfl⟩) failed).1 (.inl rfl)

end Drawer

end Transparency
