import Transparency.Command.Run
import Transparency.Network

/-!
# The program

The part of the file tree that the options point to is looked at once, the command runs on what was seen, and the
files that it changed are written back.
-/

open Transparency

/-- What a place in the file tree holds, if anything. -/
def lookAt (location : Location) : IO (Option Node) := do
  let path := (← IO.currentDir) / ("/" ++ "/".intercalate location)
  if ← path.isDir then return some .directory
  if !(← path.pathExists) then return none
  let isWritable ← try let _ ← IO.FS.Handle.mk path .append; pure true catch _ => pure false
  try
    let content ← IO.FS.readBinFile path
    return some (.file content.toList true isWritable)
  catch _ => return some (.file [] false isWritable)

/-- The places on the way to another one, and that one. -/
def placesTo (location : Location) : List Location :=
  (List.range (location.length + 1)).map location.take

/-- The part of the file tree that a path leads through. -/
def lookAlong (current : Location) (path : String) : IO FileSystem := do
  let names := (if path.startsWith "/" then [] else current) ++ FileSystem.names path
  let location := names.foldl
    (fun location name =>
      if name = "." then location else if name = ".." then location.dropLast else location ++ [name]) []
  let places := placesTo current ++ placesTo location
  let nodes ← places.mapM fun place => return (place, ← lookAt place)
  return { node? := fun place => (nodes.lookup place).join, current }

/-- Writes the file of a path back if it was changed. -/
def writeBack (path : String) (before after : FileSystem) : IO Unit := do
  match after.read path with
  | .error _ => return
  | .ok content =>
    if (before.read path).toOption ≠ some content then IO.FS.writeBinFile path ⟨content.toArray⟩

/-- Runs the program on this machine. -/
def main (arguments : List String) : IO UInt32 := do
  let environmentFile ← IO.getEnv "CTSWITCH_PREFS"
  let path := match Options.read environmentFile (arguments.drop 1) with
    | .ok options => options.file.path
    | .error _ => ""
  let current := FileSystem.names (← IO.currentDir).toString
  let files ← lookAlong current path
  let (report, machine) :=
    Command.run (Transport.offline : Transport Unit) environmentFile arguments { files, network := () }
  writeBack path files machine.files
  (← IO.getStdout).putStr report.stdout
  (← IO.getStderr).putStr report.stderr
  return UInt32.ofNat report.exit
