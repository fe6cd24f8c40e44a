import Mathlib
import Transparency.FileSystem

/-!
# Reading what was written

A file that was written is where its path leads, and it holds what was written (`FileSystem.read_of_write`), unless the
file that was there before may not be read. Putting a file where no directory was leaves every way through the tree as
it was.
-/

namespace Transparency

namespace FileSystem

variable {fs fs' : FileSystem} {location place : Location} {path : String}

theorem follow_append (fs : FileSystem) (location : Location) (names names' : List String) :
    fs.follow location (names ++ names') =
      match fs.follow location names with
      | .ok location => fs.follow location names'
      | .error fault => .error fault := by
  induction names generalizing location with
  | nil => rfl
  | cons name names ih =>
    rw [List.cons_append, follow, follow]
    cases fs.step location name with
    | ok location => exact ih location
    | error fault => rfl

/-! ## Ways through the tree -/

/-- A step that leads somewhere still does after a file was put where no directory was. -/
theorem step_put {name : String} {next : Location} {content : Bytes} {isReadable isWritable : Bool}
    (hplace : fs.node? place ≠ some .directory) (h : fs.step location name = .ok next) :
    (fs.put place (.file content isReadable isWritable)).step location name = .ok next := by
  rw [step] at h ⊢
  split at h
  · cases h
  · rename_i hdirectory
    rw [not_not] at hdirectory
    have hne : location ≠ place := by
      rintro rfl
      exact hplace hdirectory
    rw [node?_put_of_ne fs _ hne, if_neg (not_not.mpr hdirectory)]
    -- only the last test looks at what is there, and it may only have become true
    by_cases heq : location ++ [name] = place
    · rw [heq, node?_put_self, Option.isSome_some, if_pos rfl]
      rw [heq] at h
      split_ifs at h ⊢ <;> exact h
    · rwa [node?_put_of_ne fs _ heq]

theorem follow_put {names : List String} {next : Location} {content : Bytes} {isReadable isWritable : Bool}
    (hplace : fs.node? place ≠ some .directory) (h : fs.follow location names = .ok next) :
    (fs.put place (.file content isReadable isWritable)).follow location names = .ok next := by
  induction names generalizing location with
  | nil => exact h
  | cons name names ih =>
    rw [follow] at h ⊢
    cases hs : fs.step location name with
    | error fault =>
      rw [hs] at h
      cases h
    | ok location' =>
      rw [hs] at h
      rw [step_put hplace hs]
      exact ih h

/-! ## Where a file is written -/

/-- What the place of a file that is written looks like. -/
theorem exists_of_writeLocation (h : fs.writeLocation path = .ok location) :
    pathFault? path = none ∧ ¬path.endsWith "/" ∧ ∃ parent front name, names path = front ++ [name] ∧
      fs.follow (fs.start path) front = .ok parent ∧ fs.node? parent = some .directory ∧ name ≠ "." ∧ name ≠ ".." ∧
      name.utf8ByteSize ≤ nameLimit ∧ location = parent ++ [name] := by
  unfold writeLocation at h
  split at h
  · cases h
  · rename_i hpath
    refine ⟨hpath, ?_⟩
    split at h
    · cases h
    · cases h
    · rename_i parent name hparent hname
      split at h
      · cases h
      · rename_i hdirectory
        split at h
        · cases h
        · rename_i hplain
          simp only [not_or] at hplain
          split at h
          · cases h
          · rename_i hlong
            cases h
            exact ⟨hplain.1, parent, _, name, (List.dropLast_append_getLast? name hname).symm, hparent,
              not_not.mp hdirectory, hplain.2.1, hplain.2.2, Nat.le_of_not_lt hlong, rfl⟩

/-- If something is where a file would be written, the path leads there. -/
theorem locate_of_writeLocation (h : fs.writeLocation path = .ok location) (hnode : (fs.node? location).isSome) :
    fs.locate path = .ok location := by
  obtain ⟨hpath, hslash, parent, front, name, hnames, hparent, hdirectory, hdot, hdots, hlong, rfl⟩ :=
    exists_of_writeLocation h
  have hstep : fs.step parent name = .ok (parent ++ [name]) := by
    rw [step, if_neg (not_not.mpr hdirectory), if_neg hdot, if_neg hdots, if_neg (Nat.not_lt.mpr hlong),
      if_pos hnode]
  have hfollow : fs.follow (fs.start path) (names path) = .ok (parent ++ [name]) := by
    rw [hnames, follow_append, hparent]
    simp only [follow, hstep]
  simp only [locate, hpath, hfollow]
  rw [if_neg]
  exact fun hboth => hslash hboth.1

/-- A file that was put where it would be written is where it would be written again. -/
theorem writeLocation_put {content : Bytes} {isReadable isWritable : Bool} (h : fs.writeLocation path = .ok location)
    (hlocation : fs.node? location ≠ some .directory) :
    (fs.put location (.file content isReadable isWritable)).writeLocation path = .ok location := by
  obtain ⟨hpath, hslash, parent, front, name, hnames, hparent, hdirectory, hdot, hdots, hlong, rfl⟩ :=
    exists_of_writeLocation h
  have hne : parent ≠ parent ++ [name] := by simp
  have hstart : (fs.put (parent ++ [name]) (.file content isReadable isWritable)).start path = fs.start path := rfl
  have hnot : ¬(path.endsWith "/" = true ∨ name = "." ∨ name = "..") := by simp [hslash, hdot, hdots]
  simp only [writeLocation, hpath, hnames, List.dropLast_concat, List.getLast?_concat, hstart,
    follow_put hlocation hparent, node?_put_of_ne fs _ hne, hdirectory, if_neg hnot,
    if_neg (Nat.not_lt.mpr hlong), ne_eq, not_true_eq_false, if_false]

/-! ## Writing -/

/-- Writing puts the content into a file in place of what was there, which was no directory. -/
theorem exists_of_write {content : Bytes} (h : fs.write path content = .ok fs') :
    ∃ location isReadable, fs.writeLocation path = .ok location ∧ fs.node? location ≠ some .directory ∧
      fs' = fs.put location (.file content isReadable true) ∧
      ((fs.node? location = none ∧ isReadable = true) ∨
        ∃ old, fs.node? location = some (.file old isReadable true)) := by
  rw [write] at h
  split at h
  · cases h
  · rename_i location hlocation
    split at h
    · rename_i hnode
      cases h
      exact ⟨location, true, hlocation, by simp [hnode], rfl, .inl ⟨hnode, rfl⟩⟩
    · rename_i old isReadable hnode
      cases h
      exact ⟨location, isReadable, hlocation, by simp [hnode], rfl, .inr ⟨old, hnode⟩⟩
    · cases h
    · cases h

/-- **What was written is read**, unless reading was denied before. -/
theorem read_of_write {content : Bytes} (h : fs.write path content = .ok fs')
    (hread : fs.read path ≠ .error .permissionDenied) : fs'.read path = .ok content := by
  obtain ⟨location, isReadable, hlocation, hplace, rfl, hnode⟩ := exists_of_write h
  have hreadable : isReadable = true := by
    obtain ⟨-, hreadable⟩ | ⟨old, hold⟩ := hnode
    · exact hreadable
    · by_contra hdenied
      rw [Bool.not_eq_true] at hdenied
      refine hread ?_
      rw [read, locate_of_writeLocation hlocation (by simp [hold])]
      simp only [hold, hdenied]
  have hput : (fs.put location (.file content isReadable true)).writeLocation path = .ok location :=
    writeLocation_put hlocation hplace
  have hlocate := locate_of_writeLocation hput (by simp)
  rw [read, hlocate]
  simp only [node?_put_self, hreadable]

end FileSystem

end Transparency
