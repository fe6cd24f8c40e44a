import Mathlib
import Transparency.Preferences.File
import Transparency.Proofs.FileSystem
import Transparency.Proofs.Preferences.Format

/-!
# Preferences in files

What loading accepts is settled by the format alone, and whatever is not accepted is an error that names the file
(`PreferenceFile.load_iff_format`). Storing writes a document of its own, in which the flag is the only member: the
members that were there before are kept exactly if there was nothing but the flag (`PreferenceFile.keeps_iff_alone`).
-/

namespace Transparency

open Json Preferences

/-! ## A directory with one file -/

namespace Drawer

/-- The file in which the preferences are. -/
def slip : PreferenceFile := ⟨"p"⟩

/-- A directory with this file. -/
def holding (content : Bytes) (isReadable : Bool) : FileSystem :=
  (FileSystem.empty ["home"]).put ["home", "p"] (.file content isReadable true)

theorem names_slip : FileSystem.names slip.path = ["p"] := by
  have h : "p".splitOnAux "/" 0 0 0 [] = ["p"] := by
    rw [String.splitOnAux, String.splitOnAux]
    decide
  unfold slip FileSystem.names String.splitOn
  rw [h]
  decide

theorem pathFault?_slip : FileSystem.pathFault? slip.path = none := by decide

theorem start_slip (fs : FileSystem) (h : fs.current = ["home"]) : fs.start slip.path = ["home"] := by
  have hroot : "p".startsWith "/" = false := by cbv
  simp only [FileSystem.start, slip, hroot, h]
  rfl

theorem writeLocation_holding (content : Bytes) (isReadable : Bool) :
    (holding content isReadable).writeLocation slip.path = .ok ["home", "p"] := by
  have hhome : (holding content isReadable).node? ["home"] = some .directory := rfl
  have hslash : slip.path.endsWith "/" = false := by cbv
  simp only [FileSystem.writeLocation, pathFault?_slip, names_slip, start_slip (holding content isReadable) rfl,
    List.dropLast_singleton, FileSystem.follow, List.getLast?_singleton, hhome, hslash]
  rfl

theorem locate_holding (content : Bytes) (isReadable : Bool) :
    (holding content isReadable).locate slip.path = .ok ["home", "p"] :=
  FileSystem.locate_of_writeLocation (writeLocation_holding content isReadable) (by simp [holding])

theorem read_holding (content : Bytes) : (holding content true).read slip.path = .ok content := by
  rw [FileSystem.read, locate_holding]
  simp [holding]

theorem read_denied (content : Bytes) : (holding content false).read slip.path = .error .permissionDenied := by
  rw [FileSystem.read, locate_holding]
  simp [holding]

theorem write_holding (content content' : Bytes) :
    (holding content true).write slip.path content' =
      .ok ((holding content true).put ["home", "p"] (.file content' true true)) := by
  rw [FileSystem.write, writeLocation_holding]
  simp [holding]

theorem read_empty : (FileSystem.empty ["home"]).read slip.path = .error .noSuchEntry := by
  have hstep : (FileSystem.empty ["home"]).step ["home"] "p" = .error .noSuchEntry := by
    unfold FileSystem.step FileSystem.empty
    simp [FileSystem.nameLimit]
    decide
  simp only [FileSystem.read, FileSystem.locate, pathFault?_slip, names_slip,
    start_slip (FileSystem.empty ["home"]) rfl, FileSystem.follow, hstep]

end Drawer

namespace PreferenceFile

variable {file : PreferenceFile} {fs fs' : FileSystem}

/-! ## Loading -/

theorem ofContent_eq_ok_iff {content : Bytes} {value : Bool} :
    ofContent content = .ok ⟨value⟩ ↔
      (∃ text, content = Utf8.encode text) ∧
        ((∃ members, IsObject content members ∧ Says (flags members) value) ∨
          ∃ values, IsList content values ∧ Says values value) := by
  rw [← readAll_eq_ok_iff, ← read_eq_ok_iff, ofContent]
  cases hd : Utf8.decode content with
  | error fault =>
    refine ⟨nofun, ?_⟩
    rintro ⟨⟨text, htext⟩, -⟩
    rw [Utf8.decode_eq_ok_iff.mpr htext] at hd
    cases hd
  | ok text =>
    have htext := Utf8.decode_eq_ok_iff.mp hd
    cases Preferences.read content with
    | error fault => exact ⟨nofun, fun h => nomatch h.2⟩
    | ok preferences => exact ⟨fun h => ⟨⟨text, htext⟩, by cases h; rfl⟩, fun h => by cases h.2; rfl⟩

theorem load_absent (h : fs.read file.path = .error .noSuchEntry) : file.load fs = .ok ⟨false⟩ := by
  rw [load, h]

theorem load_of_read {content : Bytes} (h : fs.read file.path = .ok content) :
    file.load fs = (ofContent content).mapError (Error.inPreferences file.path) := by
  simp only [load, h]
  cases ofContent content <;> rfl

/-- Every error in loading names the file. -/
theorem exists_detail_of_load {error : Error} (h : file.load fs = .error error) :
    ∃ detail, error = .preference (file.path ++ ": " ++ detail) := by
  rw [load] at h
  split at h
  · cases h
  · rename_i fault _ _
    cases h
    exact ⟨_, rfl⟩
  · split at h
    · rename_i error _
      cases h
      exact ⟨error.message, rfl⟩
    · cases h

/-- **Loading accepts what has the format and nothing else.** A file that is not there says that the flag is off. A
content is accepted if it is the text of an object with the flag at most once and a truth value for it, or of a list in
its place; everything else, on the file system or in the content, is an error that starts with the path. -/
theorem load_iff_format (file : PreferenceFile) (fs : FileSystem) :
    (fs.read file.path = .error .noSuchEntry → file.load fs = .ok ⟨false⟩) ∧
    (∀ fault, fs.read file.path = .error fault → fault ≠ .noSuchEntry → ∃ error, file.load fs = .error error) ∧
    (∀ content, fs.read file.path = .ok content → ∀ value,
      file.load fs = .ok ⟨value⟩ ↔
        (∃ text, content = Utf8.encode text) ∧
          ((∃ members, IsObject content members ∧ Says (flags members) value) ∨
            ∃ values, IsList content values ∧ Says values value)) ∧
    ∀ error, file.load fs = .error error → ∃ detail, error = .preference (file.path ++ ": " ++ detail) := by
  refine ⟨load_absent, fun fault h hne => ?_, fun content h value => ?_, fun error => exists_detail_of_load⟩
  · rw [load, h]
    cases fault <;> first | exact absurd rfl hne | exact ⟨_, rfl⟩
  · rw [← ofContent_eq_ok_iff, load_of_read h]
    cases ofContent content with
    | error error => exact ⟨nofun, nofun⟩
    | ok preferences => exact Iff.rfl

/-- The flag in brackets is accepted, though it is no object. -/
theorem short_list_is_loaded :
    Drawer.slip.load (FileSystem.empty ["home"]) = .ok ⟨false⟩ ∧
    (∃ detail, Drawer.slip.load (Drawer.holding [] false) = .error (.preference ("p" ++ ": " ++ detail))) ∧
    Drawer.slip.load (Drawer.holding (Utf8.encode "[true]") true) = .ok ⟨true⟩ ∧
    ¬∃ members, IsObject (Utf8.encode "[true]") members := by
  refine ⟨(load_iff_format _ _).1 Drawer.read_empty, ?_, ?_, ?_⟩
  · obtain ⟨error, herror⟩ := (load_iff_format _ _).2.1 _ (Drawer.read_denied []) (by decide)
    obtain ⟨detail, rfl⟩ := (load_iff_format _ _).2.2.2 _ herror
    exact ⟨detail, herror⟩
  · refine ((load_iff_format _ _).2.2.1 _ (Drawer.read_holding _) true).mpr
      ⟨⟨_, rfl⟩, .inr ⟨[boolean true], ?_, .once true⟩⟩
    have helement : Padded ([] ++ (boolean true ++ [])) (boolean true) :=
      .intro blank_nil (.scalar (.boolean true)) blank_nil
    have htext : Utf8.encode "[true]" =
        [] ++ Frame.start .list :: (([] ++ (boolean true ++ [])) ++ Frame.close .list :: []) := by decide
    rw [htext]
    exact .items blank_nil (.one helement) blank_nil
  · rintro ⟨members, h⟩
    have hhead : Utf8.encode "[true]" = [] ++ byteOf '[' :: word "true]" := by decide
    generalize Utf8.encode "[true]" = bytes at h hhead
    cases h with
    | empty hw _ _ => exact absurd (cons_eq_of_blank hw blank_nil (by decide) (by decide) hhead).1 (by decide)
    | items hw _ _ => exact absurd (cons_eq_of_blank hw blank_nil (by decide) (by decide) hhead).1 (by decide)

/-! ## Storing -/

theorem exists_of_store {value : Bool} (h : file.store value fs = .ok fs') :
    (∃ preferences, file.load fs = .ok preferences) ∧
      fs.write file.path (Utf8.encode (render ⟨value⟩)) = .ok fs' := by
  rw [store] at h
  split at h
  · cases h
  · rename_i preferences hload
    refine ⟨⟨preferences, hload⟩, ?_⟩
    simp only at h
    split at h
    · cases h
    · rename_i hwrite
      cases h
      exact hwrite

/-- What can be loaded can be read, or is not there. -/
theorem read_ne_denied {preferences : Preferences} (h : file.load fs = .ok preferences) :
    fs.read file.path ≠ .error .permissionDenied := by
  intro hread
  rw [load, hread] at h
  cases h

/-- After storing, the file holds the document of the flag. -/
theorem read_of_store {value : Bool} (h : file.store value fs = .ok fs') :
    fs'.read file.path = .ok (Utf8.encode (render ⟨value⟩)) := by
  obtain ⟨⟨preferences, hload⟩, hwrite⟩ := exists_of_store h
  exact FileSystem.read_of_write hwrite (read_ne_denied hload)

end PreferenceFile

namespace Preferences

theorem spells_keyBytes : Spells keyBytes keyBytes := spells_self (by unfold IsPlain; decide +kernel)

theorem encode_render (value : Bool) :
    Utf8.encode (render ⟨value⟩) =
      byteOf '\x7b' :: ([0x0A, 0x20, 0x20] ++ (quote keyBytes ++ byteOf ':' :: ([0x20] ++ (boolean value ++ [0x0A]))) ++
        [byteOf '\x7d']) := by
  cases value <;> decide

/-- The document of a flag is an object that holds the flag alone. -/
theorem isObject_render (value : Bool) :
    IsObject (Utf8.encode (render ⟨value⟩)) [⟨keyBytes, boolean value⟩] := by
  have helement : Padded ([0x20] ++ (boolean value ++ [0x0A])) (boolean value) :=
    .intro (by simp [Blank, isBlank]) (.scalar (.boolean value)) (by simp [Blank, isBlank])
  have hentry : Keyed
      ([0x0A, 0x20, 0x20] ++ (quote keyBytes ++ ([] ++ byteOf ':' :: ([0x20] ++ (boolean value ++ [0x0A])))))
      ⟨keyBytes, boolean value⟩ := .intro (by simp [Blank, isBlank]) spells_keyBytes blank_nil helement
  rw [encode_render]
  exact @Framed.items _ .object _ _ _ _ _ blank_nil (.one hentry) blank_nil

/-- Whether members are others with the flag set to a value, and nothing else changed. -/
def Sets (value : Bool) (members members' : List Member) : Prop :=
  ∀ member, member ∈ members' ↔ member = ⟨keyBytes, boolean value⟩ ∨ member.key ≠ keyBytes ∧ member ∈ members

end Preferences

namespace PreferenceFile

/-- The document of a flag is loaded as the flag. -/
theorem load_render {file : PreferenceFile} {fs : FileSystem} {value : Bool}
    (document : fs.read file.path = .ok (Utf8.encode (render ⟨value⟩))) : file.load fs = .ok ⟨value⟩ := by
  have flag : flags [⟨keyBytes, boolean value⟩] = [boolean value] := by rw [flags_singleton, if_pos rfl]
  rw [load_of_read document, ofContent_eq_ok_iff.mpr
    ⟨⟨_, rfl⟩, .inl ⟨_, isObject_render value, flag ▸ Says.once value⟩⟩]
  rfl

/-- After storing, the flag is loaded as it was stored. -/
theorem load_of_store {file : PreferenceFile} {fs fs' : FileSystem} {value : Bool}
    (stored : file.store value fs = .ok fs') : file.load fs' = .ok ⟨value⟩ :=
  load_render (read_of_store stored)

/-- **Storing keeps nothing but the flag.** The document after it holds the flag alone, so whatever members the file
had before, they are kept exactly if there was no other key. -/
theorem keeps_iff_alone {file : PreferenceFile} {fs fs' : FileSystem} {value : Bool}
    (hstore : file.store value fs = .ok fs') :
    ∃ content', fs'.read file.path = .ok content' ∧ IsObject content' [⟨keyBytes, boolean value⟩] ∧
      ∀ content members, fs.read file.path = .ok content → IsObject content members →
        ((∃ members', IsObject content' members' ∧ Sets value members members') ↔
          ∀ member ∈ members, member.key = keyBytes) := by
  refine ⟨_, read_of_store hstore, isObject_render value, fun content members _ _ => ?_⟩
  constructor
  · rintro ⟨members', hobject', hsets⟩ member hmember
    obtain rfl := hobject'.unique (isObject_render value)
    by_contra hkey
    have := (hsets member).mpr (.inr ⟨hkey, hmember⟩)
    rw [List.mem_singleton.mp this] at hkey
    exact hkey rfl
  · intro halone
    refine ⟨_, isObject_render value, fun member => ?_⟩
    rw [List.mem_singleton]
    refine ⟨.inl, ?_⟩
    rintro (h | ⟨hkey, hmember⟩)
    · exact h
    · exact absurd (halone member hmember) hkey

/-- Another key is lost when the flag is stored. -/
theorem other_key_is_lost :
    ∃ fs' content', Drawer.slip.store true (Drawer.holding (Utf8.encode "\x7b\"other\":1\x7d") true) = .ok fs' ∧
      IsObject (Utf8.encode "\x7b\"other\":1\x7d") [⟨Utf8.encode "other", word "1"⟩] ∧
      fs'.read Drawer.slip.path = .ok content' ∧
      ¬∃ members', IsObject content' members' ∧ Sets true [⟨Utf8.encode "other", word "1"⟩] members' := by
  have hone : Magnitude (word "1" ++ ([] ++ [])) :=
    .intro (.inr ⟨⟨by decide, by decide +kernel⟩, by decide⟩) .none .none
  have hentry : Keyed ([] ++ (quote (Utf8.encode "other") ++ ([] ++ byteOf ':' :: ([] ++ (word "1" ++ [])))))
      ⟨Utf8.encode "other", word "1"⟩ :=
    .intro blank_nil (spells_self (by unfold IsPlain; decide +kernel)) blank_nil
      (.intro blank_nil (.scalar (.positive hone)) blank_nil)
  have hobject : IsObject (Utf8.encode "\x7b\"other\":1\x7d") [⟨Utf8.encode "other", word "1"⟩] := by
    have htext : Utf8.encode "\x7b\"other\":1\x7d" = [] ++ Frame.start .object ::
        (([] ++ (quote (Utf8.encode "other") ++ ([] ++ byteOf ':' :: ([] ++ (word "1" ++ []))))) ++
          Frame.close .object :: []) := by decide +kernel
    rw [htext]
    exact .items blank_nil (.one hentry) blank_nil
  have hflags : Says (flags [⟨Utf8.encode "other", word "1"⟩]) false := by
    rw [flags_singleton, if_neg (by decide +kernel)]
    exact .nothing
  have hload : Drawer.slip.load (Drawer.holding (Utf8.encode "\x7b\"other\":1\x7d") true) = .ok ⟨false⟩ := by
    rw [load_of_read (Drawer.read_holding _), ofContent_eq_ok_iff.mpr ⟨⟨_, rfl⟩, .inl ⟨_, hobject, hflags⟩⟩]
    rfl
  obtain ⟨fs', hstore⟩ : ∃ fs', Drawer.slip.store true
      (Drawer.holding (Utf8.encode "\x7b\"other\":1\x7d") true) = .ok fs' := by
    simp only [store, hload, Drawer.write_holding]
    exact ⟨_, rfl⟩
  obtain ⟨content', hread, -, hkeeps⟩ := keeps_iff_alone hstore
  refine ⟨fs', content', hstore, hobject, hread, fun hsets => ?_⟩
  have halone := (hkeeps _ _ (Drawer.read_holding _) hobject).mp hsets
  exact absurd (halone _ List.mem_cons_self) (by decide +kernel)

end PreferenceFile

end Transparency
