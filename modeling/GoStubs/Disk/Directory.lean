import GoStubs.Disk.Walk

/-!
# Making and removing directories

A directory is made where a name is free, or with all the directories on the
way to it. Removing takes away a file or a whole tree, and the name of the tree
last. No command removes anything, but users do between two runs, and the next
run has to put up with what is left.
-/

namespace GoStubs.Disk

/-- Makes a directory where nothing is. -/
def makeDirectory (disk : Disk) (path : Path) : Except DiskError Disk := do
  let spot ← disk.walk path
  if (disk.find? spot.location).isSome then throw .alreadyExists
  return disk.put spot.location .directory

/-- A directory is put at the end of the path, where nothing was. -/
theorem makeDirectory_eq_ok_iff {disk after : Disk} {path : Path} :
    disk.makeDirectory path = .ok after ↔
      ∃ spot, disk.walk path = .ok spot ∧ disk.find? spot.location = none ∧
        disk.put spot.location .directory = after := by
  unfold makeDirectory
  cases hw : disk.walk path with
  | error error => simp [bind, Except.bind]
  | ok spot =>
    cases hf : disk.find? spot.location with
    | some entry => simp [hf, bind, Except.bind, throw, throwThe, MonadExceptOf.throw]
    | none => simp [hf, bind, Except.bind, pure, Except.pure]

/-- Makes a directory, unless the path leads to one already. -/
def ensureDirectory (disk : Disk) (path : Path) : Except DiskError Disk :=
  match disk.makeDirectory path with
  | .ok made => .ok made
  | .error error => if disk.isDirectory path then .ok disk else .error error

/-- Makes the first of the given paths a directory, where each path is the parent of the one before
it; the parents come first if they are missing. The directories made before an error stay. -/
def ensureDirectories (disk : Disk) : List Path → Except DiskError Unit × Disk
  | [] => (.ok (), disk)
  | path :: parents =>
    if path.text.isEmpty then (.ok (), disk)
    else match disk.ensureDirectory path with
      | .ok made => (.ok (), made)
      | .error .notFound =>
        match ensureDirectories disk parents with
        | (.error error, made) => (.error error, made)
        | (.ok _, made) =>
          match made.ensureDirectory path with
          | .ok made => (.ok (), made)
          | .error error => (.error error, made)
      | .error error => (.error error, disk)

/-- Makes the directory of a path and all that it lies in. -/
def makeDirectories (disk : Disk) (path : Path) : Except DiskError Unit × Disk :=
  disk.ensureDirectories path.ancestors

/-- Takes away all that lies below a location. -/
def clear (disk : Disk) (location : Location) : Disk :=
  (disk.below location).foldl (fun disk item => disk.remove (location ++ item.1)) disk

/-- Takes the last name of a path out of the directory that the path before it leads to, and tells
whether it is gone. Dots are no names that can be taken out. -/
def removeName (disk : Disk) (path : Path) : Bool × Disk :=
  let segments := path.segments.filter (! ·.isEmpty)
  let start := if path.isAbsolute then [] else disk.workingDirectory
  match segments.getLast?, disk.walkFrom false start segments.dropLast with
  | none, _ => (false, disk)
  | some _, .error error => (error == .notFound, disk)
  | some name, .ok spot =>
    match disk.find? spot.location with
    | none => (true, disk)
    | some (.file _) => (false, disk)
    | some .directory =>
      if Path.isIdle name ∨ name = ['.', '.'] then (false, disk)
      else (true, disk.remove (spot.location ++ [name]))

/-- Removes the file at a path, or empties the directory there and takes its name away, and tells
whether it is gone. A directory is emptied even if its name cannot be taken away. -/
def removeAll (disk : Disk) (path : Path) : Bool × Disk :=
  match disk.walk path with
  | .error _ => (false, disk)
  | .ok spot =>
    match disk.find? spot.location with
    | none => (false, disk)
    | some (.file _) => if spot.slash then (false, disk) else (true, disk.remove spot.location)
    | some .directory => (disk.clear spot.location).removeName path

end GoStubs.Disk
