import Transparency.Bytes

/-!
# Files and directories

A tree of files and directories with a current directory. A path is a text: its parts between slashes are followed
from the root if it starts with a slash, and from the current directory otherwise.

* `FileSystem.read` gives the content of a file.
* `FileSystem.write` replaces the content of a file, or makes a file in a directory that is there.

Writing changes what the path leads to and nothing else, and a write that fails changes nothing at all.
-/

namespace Transparency

/-- What kind of trouble an operation on files ran into. -/
inductive IoKind where
  | notFound
  | permissionDenied
  | timedOut
  | invalidData
  | alreadyExists
  | interrupted
  | unexpectedEnd
  | other
  deriving DecidableEq, Repr

/-- What a kind of trouble is called when nothing more is known. -/
def IoKind.message : IoKind → String
  | .notFound => "entity not found"
  | .permissionDenied => "permission denied"
  | .timedOut => "timed out"
  | .invalidData => "invalid data"
  | .alreadyExists => "entity already exists"
  | .interrupted => "operation interrupted"
  | .unexpectedEnd => "unexpected end of file"
  | .other => "other error"

/-- Why an operation on files failed. -/
inductive IoFault where
  /-- nothing is where the path leads -/
  | noSuchEntry
  /-- the path goes on below a file -/
  | notDirectory
  /-- the path leads to a directory where a file is needed -/
  | isDirectory
  | permissionDenied
  /-- a part of the path or the path itself is too long -/
  | nameTooLong
  /-- the path holds a NUL character -/
  | nulInName
  /-- the file is not text -/
  | notText
  /-- trouble of which only the kind is known -/
  | plain (kind : IoKind)
  /-- trouble that comes with its own description -/
  | described (text : String)
  deriving DecidableEq, Repr

/-- What a fault is called in messages. -/
def IoFault.message : IoFault → String
  | .noSuchEntry => "No such file or directory (os error 2)"
  | .notDirectory => "Not a directory (os error 20)"
  | .isDirectory => "Is a directory (os error 21)"
  | .permissionDenied => "Permission denied (os error 13)"
  | .nameTooLong => "File name too long (os error 36)"
  | .nulInName => "file name contained an unexpected NUL byte"
  | .notText => "stream did not contain valid UTF-8"
  | .plain kind => kind.message
  | .described text => text

/-- What a place in the tree holds. -/
inductive Node where
  | directory
  | file (content : Bytes) (isReadable isWritable : Bool)
  deriving DecidableEq, Repr

/-- A place in the tree: the names on the way from the root. -/
abbrev Location := List String

/-- The tree, and the directory from which relative paths start. -/
structure FileSystem where
  node? : Location → Option Node
  current : Location

namespace FileSystem

/-- A tree in which there is nothing but the current directory and those above it. -/
def empty (current : Location) : FileSystem where
  node? location := if location <+: current then some .directory else none
  current := current

/-- The names between the slashes of a path. -/
def names (path : String) : List String :=
  (path.splitOn "/").filter (· ≠ "")

/-- The place from which a path starts. -/
def start (fs : FileSystem) (path : String) : Location :=
  if path.startsWith "/" then [] else fs.current

/-- The greatest number of bytes of a name. -/
def nameLimit : Nat := 255

/-- Paths have fewer bytes than this. -/
def pathLimit : Nat := 4096

/-- One name further. -/
def step (fs : FileSystem) (location : Location) (name : String) : Except IoFault Location :=
  if fs.node? location ≠ some .directory then .error .notDirectory
  else if name = "." then .ok location
  else if name = ".." then .ok location.dropLast
  else if nameLimit < name.utf8ByteSize then .error .nameTooLong
  else if (fs.node? (location ++ [name])).isSome then .ok (location ++ [name])
  else .error .noSuchEntry

/-- The place that a list of names leads to. -/
def follow (fs : FileSystem) : Location → List String → Except IoFault Location
  | location, [] => .ok location
  | location, name :: names =>
    match fs.step location name with
    | .ok location => fs.follow location names
    | .error fault => .error fault

/-- What keeps a text from being a path at all. -/
def pathFault? (path : String) : Option IoFault :=
  if Char.ofNat 0 ∈ path.toList then some .nulInName
  else if path = "" then some .noSuchEntry
  else if pathLimit ≤ path.utf8ByteSize then some .nameTooLong
  else none

/-- The place that a path leads to. A slash at the end demands a directory. -/
def locate (fs : FileSystem) (path : String) : Except IoFault Location :=
  match pathFault? path with
  | some fault => .error fault
  | none =>
    match fs.follow (fs.start path) (names path) with
    | .error fault => .error fault
    | .ok location =>
      if path.endsWith "/" ∧ fs.node? location ≠ some .directory then .error .notDirectory else .ok location

/-- The content of a file. -/
def read (fs : FileSystem) (path : String) : Except IoFault Bytes :=
  match fs.locate path with
  | .error fault => .error fault
  | .ok location =>
    match fs.node? location with
    | some (.file content true _) => .ok content
    | some (.file _ false _) => .error .permissionDenied
    | some .directory => .error .isDirectory
    | none => .error .noSuchEntry

/-- Whether a path leads to a directory. -/
def isDirectory (fs : FileSystem) (path : String) : Bool :=
  match fs.locate path with
  | .ok location => fs.node? location = some .directory
  | .error _ => false

/-- Puts a node in a place. -/
def put (fs : FileSystem) (location : Location) (node : Node) : FileSystem :=
  { fs with node? := fun l => if l = location then some node else fs.node? l }

/-- The place of the file that writing to a path is about. Its directory has to be there, and the path may not end as
only a directory's does. -/
def writeLocation (fs : FileSystem) (path : String) : Except IoFault Location :=
  match pathFault? path with
  | some fault => .error fault
  | none =>
    match fs.follow (fs.start path) (names path).dropLast, (names path).getLast? with
    | .error fault, _ => .error fault
    | .ok _, none => .error .isDirectory
    | .ok parent, some name =>
      if fs.node? parent ≠ some .directory then .error .notDirectory
      else if path.endsWith "/" ∨ name = "." ∨ name = ".." then .error .isDirectory
      else if nameLimit < name.utf8ByteSize then .error .nameTooLong
      else .ok (parent ++ [name])

/-- Replaces the content of a file, or makes one. -/
def write (fs : FileSystem) (path : String) (content : Bytes) : Except IoFault FileSystem :=
  match fs.writeLocation path with
  | .error fault => .error fault
  | .ok location =>
    match fs.node? location with
    | none => .ok (fs.put location (.file content true true))
    | some (.file _ isReadable true) => .ok (fs.put location (.file content isReadable true))
    | some (.file _ _ false) => .error .permissionDenied
    | some .directory => .error .isDirectory

/-- Takes a file out of the tree. -/
def delete (fs : FileSystem) (path : String) : Except IoFault FileSystem :=
  match fs.locate path with
  | .error fault => .error fault
  | .ok location =>
    match fs.node? location with
    | some (.file ..) => .ok { fs with node? := fun l => if l = location then none else fs.node? l }
    | some .directory => .error .isDirectory
    | none => .error .noSuchEntry

/-- Makes the directories on the way along a list of names, where they are not there yet. -/
def makeDirectoriesFrom (fs : FileSystem) : Location → List String → Except IoFault FileSystem
  | location, [] => if fs.node? location = some .directory then .ok fs else .error .notDirectory
  | location, name :: names =>
    match fs.step location name with
    | .ok location => fs.makeDirectoriesFrom location names
    | .error .noSuchEntry =>
      (fs.put (location ++ [name]) .directory).makeDirectoriesFrom (location ++ [name]) names
    | .error fault => .error fault

/-- Makes a directory and all those above it that are missing. -/
def makeDirectories (fs : FileSystem) (path : String) : Except IoFault FileSystem :=
  match pathFault? path with
  | some fault => if path = "" then .ok fs else .error fault
  | none => fs.makeDirectoriesFrom (fs.start path) (names path)

@[simp] theorem node?_put_self (fs : FileSystem) (location : Location) (node : Node) :
    (fs.put location node).node? location = some node := by
  simp [put]

theorem node?_put_of_ne (fs : FileSystem) {location other : Location} (node : Node) (h : other ≠ location) :
    (fs.put location node).node? other = fs.node? other := by
  simp [put, h]

end FileSystem

end Transparency
