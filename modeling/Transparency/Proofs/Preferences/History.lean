import Transparency.Proofs.Preferences.Disk

/-!
# The history of a file

A file with preferences is stored to, loaded and polled, and others write, delete and make directories meanwhile, in
any order. Loading and polling look at the file as it is at that moment (`PreferenceFile.load_congr`) and leave
everything alone; storing puts a value there or does nothing.

So as long as others leave the file as it was, it holds the value that was stored last
(`PreferenceFile.load_after`).
-/

namespace Transparency

namespace FileSystem

variable {fs fs' : FileSystem} {path : String}

/-- Writing the same once more changes nothing. -/
theorem write_again {content : Bytes} (wrote : fs.write path content = .ok fs') :
    fs'.write path content = .ok fs' := by
  obtain ⟨location, isReadable, place, noDirectory, rfl, -⟩ := exists_of_write wrote
  rw [write, writeLocation_put place noDirectory]
  simp only [node?_put_self, Except.ok.injEq]
  rw [put, put]
  congr 1
  funext l
  by_cases here : l = location <;> simp [here]

end FileSystem

namespace PreferenceFile

open Preferences

variable {file : PreferenceFile} {fs fs' start : FileSystem} {value : Bool}

/-- Whether the flag is on, now. -/
def poll (file : PreferenceFile) (fs : FileSystem) : Except Error Bool := (file.load fs).map (·.transparency)

/-! ## Events -/

/-- What may happen to a file: it is stored to, loaded or polled, or others are at work on the files. -/
inductive Event where
  | store (value : Bool)
  | load
  | poll
  | write (path : String) (content : Bytes)
  | delete (path : String)
  | makeDirectories (path : String)

/-- What a call answers. -/
inductive Answer where
  | stored (error? : Option Error)
  | loaded (result : Except Error Preferences)
  | polled (result : Except Error Bool)
  /-- others get no answer from a file with preferences -/
  | none

namespace Event

/-- The files after an attempt, which changes nothing if it fails. -/
def attempt (result : Except IoFault FileSystem) (fs : FileSystem) : FileSystem := result.toOption.getD fs

/-- The files after an event. -/
def after (file : PreferenceFile) : Event → FileSystem → FileSystem
  | store value, fs =>
    match file.store value fs with
    | .ok later => later
    | .error _ => fs
  | load, fs => fs
  | poll, fs => fs
  | write path content, fs => attempt (fs.write path content) fs
  | delete path, fs => attempt (fs.delete path) fs
  | makeDirectories path, fs => attempt (fs.makeDirectories path) fs

/-- What an event is answered. -/
def answer (file : PreferenceFile) : Event → FileSystem → Answer
  | store value, fs =>
    match file.store value fs with
    | .ok _ => .stored none
    | .error error => .stored (some error)
  | load, fs => .loaded (file.load fs)
  | poll, fs => .polled (file.poll fs)
  | write .., _ | delete .., _ | makeDirectories .., _ => .none

/-- The value that an event stores, if it does. -/
def stored? (file : PreferenceFile) : Event → FileSystem → Option Bool
  | store value, fs =>
    match file.store value fs with
    | .ok _ => some value
    | .error _ => none
  | _, _ => none

/-- An event is a call of storing, or the file is not changed by it. -/
def Spares (file : PreferenceFile) (fs : FileSystem) (event : Event) : Prop :=
  (∃ value, event = store value) ∨ (event.after file fs).read file.path = fs.read file.path

end Event

/-- The files after a history. -/
def after (file : PreferenceFile) (history : List Event) (start : FileSystem) : FileSystem :=
  history.foldl (fun fs event => event.after file fs) start

/-- The answers to the calls of a history, in order. -/
def answers (file : PreferenceFile) : List Event → FileSystem → List Answer
  | [], _ => []
  | event :: later, fs => event.answer file fs :: answers file later (event.after file fs)

/-- The values that were stored in a history, in order. -/
def storedIn (file : PreferenceFile) : List Event → FileSystem → List Bool
  | [], _ => []
  | event :: later, fs => (event.stored? file fs).toList ++ storedIn file later (event.after file fs)

/-- Nothing but storing changes the file. -/
def Undisturbed (file : PreferenceFile) : List Event → FileSystem → Prop
  | [], _ => True
  | event :: later, fs => event.Spares file fs ∧ Undisturbed file later (event.after file fs)

theorem after_cons (event : Event) (later : List Event) (fs : FileSystem) :
    file.after (event :: later) fs = file.after later (event.after file fs) := rfl

theorem after_append (earlier later : List Event) (fs : FileSystem) :
    file.after (earlier ++ later) fs = file.after later (file.after earlier fs) := List.foldl_append

/-- The answer to an event is the one at the moment when it happens. -/
theorem getElem?_answers (earlier : List Event) (event : Event) (later : List Event) (start : FileSystem) :
    (file.answers (earlier ++ event :: later) start)[earlier.length]? =
      some (event.answer file (file.after earlier start)) := by
  induction earlier generalizing start with
  | nil => rfl
  | cons first earlier ih => exact ih (first.after file start)

/-! ## One event -/

/-- Files on which the file reads alike load alike. -/
theorem load_congr (same : fs.read file.path = fs'.read file.path) : file.load fs = file.load fs' := by
  rw [load_eq_understand, load_eq_understand, same]

/-- The second of two equal calls changes nothing. -/
theorem store_again (stored : file.store value fs = .ok fs') : file.store value fs' = .ok fs' := by
  have wrote := FileSystem.write_again (exists_of_store stored).2
  rw [store, load_of_store stored]
  simp only [wrote]

/-- **An event stores a value, or leaves the one that is there.** -/
theorem load_event {event : Event} (loaded : file.load fs = .ok ⟨value⟩) (spares : event.Spares file fs) :
    file.load (event.after file fs) = .ok ⟨(event.stored? file fs).getD value⟩ := by
  have kept : (event.after file fs).read file.path = fs.read file.path →
      file.load (event.after file fs) = .ok ⟨value⟩ := fun same => (load_congr same).trans loaded
  cases event with
  | store wanted =>
    rcases stored : file.store wanted fs with error | later
    · simp only [Event.after, Event.stored?, stored, Option.getD_none]
      exact loaded
    · simp only [Event.after, Event.stored?, stored, Option.getD_some]
      exact load_of_store stored
  | load | poll => exact loaded
  | write | delete | makeDirectories =>
    obtain ⟨_, ⟨⟩⟩ | same := spares
    exact kept same

/-! ## Histories -/

/-- **A history leaves the value that was stored last**, or the one that was there if none was stored. -/
theorem load_after {history : List Event} (loaded : file.load start = .ok ⟨value⟩)
    (undisturbed : file.Undisturbed history start) :
    file.load (file.after history start) = .ok ⟨(file.storedIn history start).getLast?.getD value⟩ := by
  induction history generalizing start value with
  | nil => exact loaded
  | cons event later ih =>
    obtain ⟨spares, undisturbed⟩ := undisturbed
    rw [after_cons, ih (load_event loaded spares) undisturbed, storedIn]
    rcases event.stored? file start with _ | wanted
    · rfl
    · rw [Option.toList_some, List.singleton_append, List.getLast?_cons]
      rfl

/-- **The value that was stored last stays** until others change the file.

* The answers of loading and polling are read off the file at their moment, and the calls change nothing.
* Whatever happened before a value was stored: it is loaded and polled as long as nothing but storing changes the file,
  and if more values are stored in that time, the last of them is.
* Storing a value once more succeeds and changes nothing. -/
theorem last_value_stays (file : PreferenceFile) :
    (∀ earlier later start,
      let fs := file.after earlier start
      (file.answers (earlier ++ .load :: later) start)[earlier.length]? =
          some (.loaded (file.understand (fs.read file.path))) ∧
        (file.answers (earlier ++ .poll :: later) start)[earlier.length]? =
          some (.polled ((file.understand (fs.read file.path)).map (·.transparency))) ∧
        file.after (earlier ++ [.load]) start = fs ∧ file.after (earlier ++ [.poll]) start = fs) ∧
    (∀ earlier value later start fs', file.store value (file.after earlier start) = .ok fs' →
      file.Undisturbed later fs' →
        let last := (file.storedIn later fs').getLast?.getD value
        let fs := file.after (earlier ++ .store value :: later) start
        file.load fs = .ok ⟨last⟩ ∧ file.poll fs = .ok last) ∧
    ∀ value fs fs', file.store value fs = .ok fs' → file.store value fs' = .ok fs' := by
  refine ⟨fun earlier later start => ⟨?_, ?_, ?_, ?_⟩, fun earlier value later start fs' stored undisturbed => ?_,
    fun value fs fs' => store_again⟩
  · rw [getElem?_answers, Event.answer, load_eq_understand]
  · rw [getElem?_answers, Event.answer, poll, load_eq_understand]
  · rw [after_append]
    rfl
  · rw [after_append]
    rfl
  · have loaded := load_after (load_of_store stored) undisturbed
    have files : file.after (earlier ++ .store value :: later) start = file.after later fs' := by
      rw [after_append, after_cons, Event.after, stored]
    rw [files]
    refine ⟨loaded, ?_⟩
    rw [poll, loaded]
    rfl

end PreferenceFile

namespace Drawer

open PreferenceFile

theorem write_empty (content : Bytes) :
    (FileSystem.empty ["home"]).write slip.path content = .ok (holding content true) := by
  have place : (FileSystem.empty ["home"]).writeLocation slip.path = .ok ["home", "p"] := by
    have home : (FileSystem.empty ["home"]).node? ["home"] = some .directory := by decide
    have slash : slip.path.endsWith "/" = false := by cbv
    simp only [FileSystem.writeLocation, pathFault?_slip, names_slip, start_slip (.empty ["home"]) rfl,
      List.dropLast_singleton, FileSystem.follow, List.getLast?_singleton, home, slash]
    rfl
  have nothing : (FileSystem.empty ["home"]).node? ["home", "p"] = none := by decide
  rw [FileSystem.write, place]
  simp only [nothing]
  rfl

theorem store_holding (value wanted : Bool) :
    slip.store wanted (holding (Utf8.encode (Preferences.render ⟨value⟩)) true) =
      .ok (holding (Utf8.encode (Preferences.render ⟨wanted⟩)) true) := by
  rw [store, load_render (read_holding _)]
  simp only [write_holding]
  refine congrArg Except.ok ?_
  rw [holding, holding, FileSystem.put, FileSystem.put]
  congr 1
  funext l
  by_cases here : l = ["home", "p"] <;> simp [here]

/-- Somebody makes a directory that is there, and the file is loaded. -/
def earlier : List Event := [.makeDirectories "", .load]

/-- The file is polled, and another value is stored; then somebody fails to write. -/
def later : List Event := [.poll, .store false, .write "" [], .poll]

/-- In a directory without the file, it is the second value that stays, and storing it once more changes nothing. -/
theorem slip_holds_the_second :
    let fs := slip.after (earlier ++ .store true :: later) (.empty ["home"])
    slip.poll fs = .ok false ∧ slip.store false fs = .ok fs := by
  have first : slip.store true (slip.after earlier (.empty ["home"])) =
      .ok (holding (Utf8.encode (Preferences.render ⟨true⟩)) true) := by
    show slip.store true (.empty ["home"]) = _
    rw [store, load_absent read_empty]
    simp only [write_empty]
  have second := store_holding true false
  have unnamed : ∀ fs : FileSystem, fs.write "" [] = .error .noSuchEntry := fun _ => rfl
  have stored : slip.storedIn later (holding (Utf8.encode (Preferences.render ⟨true⟩)) true) = [false] := by
    simp only [later, storedIn, Event.stored?, Event.after, second]
    rfl
  have files : slip.after (earlier ++ .store true :: later) (.empty ["home"]) =
      holding (Utf8.encode (Preferences.render ⟨false⟩)) true := by
    rw [after_append, after_cons, Event.after, first]
    simp only [later, after, List.foldl_cons, List.foldl_nil, Event.after, second, unnamed]
    rfl
  obtain ⟨-, last, again⟩ := last_value_stays slip
  have stays := (last earlier true later (.empty ["home"]) _ first
    ⟨.inr rfl, .inl ⟨false, rfl⟩, .inr rfl, .inr rfl, trivial⟩).2
  rw [stored] at stays
  refine ⟨stays, ?_⟩
  rw [files]
  exact again false _ _ second

end Drawer

end Transparency
