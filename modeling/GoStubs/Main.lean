import GoStubs.Command.Program
import GoStubs.Command.Reach

/-!
# The command line

The parts of the file system that a command looks at are loaded onto a disk,
the command is followed there, and what has changed is saved.
-/

namespace GoStubs.Main

def pathText (location : Location) : String :=
  String.ofList ('/' :: ['/'].intercalate location)

/-- Loads the entry at a location. -/
def loadEntry (disk : Disk) (location : Location) : IO Disk := do
  let path := (← IO.currentDir) / pathText location
  if ← path.isDir then
    return disk.put location .directory
  else if ← path.pathExists then
    return disk.put location (.file (← IO.FS.readBinFile path).toList)
  else
    return disk

/-- Loads the entries on the way that a path leads, and gives the location at its end. -/
def loadAlong (disk : Disk) (path : Path) : IO (Disk × Location) := do
  let mut disk := disk
  let mut here := if path.isAbsolute then [] else disk.workingDirectory
  for segment in path.segments do
    if segment = ['.', '.'] then
      here := here.dropLast
    else if !Path.isIdle segment then
      here := here ++ [segment]
      disk ← loadEntry disk here
  return (disk, here)

/-- Loads what lies below a directory. Links are left out. -/
partial def loadBelow (disk : Disk) (location : Location) : IO Disk := do
  let path := (← IO.currentDir) / pathText location
  let mut disk := disk
  if ← path.isDir then
    for entry in ← path.readDir do
      let kind := (← entry.path.symlinkMetadata).type
      if kind != .symlink then
        let inner := location ++ [entry.fileName.toList]
        disk ← loadEntry disk inner
        if kind == .dir then
          disk ← loadBelow disk inner
  return disk

/-- The disk with the working directory and nothing else. -/
def loadHome : IO Disk := do
  let mut disk := Disk.blank
  let mut here : Location := []
  for name in Text.split (· == '/') (toString (← IO.currentDir)).toList do
    if !name.isEmpty then
      here := here ++ [name]
      disk := disk.put here .directory
  return disk.enter here

/-- Loads all that a command looks at. -/
def loadFor (command : Command) : IO Disk := do
  let mut disk ← loadHome
  if let some path := command.config? then
    disk := (← loadAlong disk path).1
  if let .ok settings := loadSettings disk command.config? then
    for path in command.places settings do
      disk := (← loadAlong disk path).1
    if let some root := command.root? then
      for directory in [settings.scanDir, settings.outputDir] do
        let (along, location) ← loadAlong disk (root.join directory)
        disk ← loadBelow along location
  return disk

/-- Saves the entries that are new or have changed, directories before what lies in them. -/
def save (before after : Disk) : IO Unit := do
  for (location, entry) in after.below [] do
    if before.find? location ≠ some entry then
      match entry with
      | .directory => IO.FS.createDir (pathText location)
      | .file content => IO.FS.writeBinFile (pathText location) ⟨content.toArray⟩

/-- Whether the output has colours: they can be forced or switched off, and a terminal has them. -/
def wantsColour : IO Bool := do
  if (← IO.getEnv "CLICOLOR_FORCE").any (· != "0") then
    return true
  if (← IO.getEnv "NO_COLOR").isSome then
    return false
  return (← IO.getEnv "CLICOLOR") != some "0" && (← (← IO.getStdout).isTty)

end GoStubs.Main

open GoStubs in
def main (arguments : List String) : IO UInt32 := do
  let arguments := arguments.map String.toList
  let before ← match Command.read arguments with
    | .ok invocation => Main.loadFor invocation.command
    | .error _ => pure Disk.blank
  let (outcome, after) := Command.follow (← Main.wantsColour) arguments before
  Main.save before after
  IO.print (String.ofList outcome.stdout)
  IO.eprint (String.ofList outcome.stderr)
  return outcome.exit.code.toUInt32
