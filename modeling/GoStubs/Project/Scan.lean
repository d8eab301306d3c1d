import GoStubs.Disk.Walk
import GoStubs.Settings.Basic

/-!
# Scanning for interface files

The interface files of a repository have one name and lie in directories below
the scan directory. The first of these directories is the group of a file.
Files come in the order of a walk that takes names in order. The scan fails at
the first directory that the walk cannot go into.
-/

namespace GoStubs

structure InterfaceFile where
  group : Text
  path : Path
  deriving DecidableEq, Repr

namespace InterfaceFile

def pathBelow (start : Path) (names : Location) : Path := names.foldl Path.join start

/-- The interface file that an entry below `start` is, if its name is `target` and it lies in a
group. -/
def ofItem? (start : Path) (target : Text) : Location × Entry → Option InterfaceFile
  | (group :: name :: names, .file _) =>
    if (name :: names).getLast? = some target then
      some ⟨group, pathBelow start (group :: name :: names)⟩
    else none
  | _ => none

/-- Why a walk cannot go on into an entry below `start`, if that is a directory. Its path may be
too long, though the path of what it lies in is not. -/
def obstacle? (disk : Disk) (start : Path) : Location × Entry → Option Cause
  | (names, .directory) =>
    match disk.walk (pathBelow start names) with
    | .ok _ => none
    | .error error => some (.walk (pathBelow start names) error)
  | (_, .file _) => none

/-- The interface files below a path, unless there is a directory that the walk cannot go into. -/
def below (disk : Disk) (start : Path) (target : Text) : Except Fault (List InterfaceFile) :=
  match disk.walk start with
  | .error _ => .ok []
  | .ok spot =>
    let items := disk.below spot.location
    match items.findSome? (obstacle? disk start) with
    | some cause => .error (.scanFailed start cause)
    | none => .ok (items.filterMap (ofItem? start target))

/-- The interface files of a repository; none if it has no scan directory. -/
def scan (disk : Disk) (root : Path) (settings : Settings) : Except Fault (List InterfaceFile) :=
  let start := root.join settings.scanDir
  if disk.isDirectory start then below disk start settings.targetFile else .ok []

end InterfaceFile

end GoStubs
