import GoStubs.Project.Manifest
import GoStubs.Project.Scan

/-!
# Projects

A project is a repository with checked settings and the module that its
manifest declares. The import path of a directory in it starts with the module.
-/

namespace GoStubs

structure Project where
  root : Path
  settings : Settings
  moduleName : Text
  deriving DecidableEq, Repr

namespace Project

/-- Checks the settings and reads the manifest of a repository. -/
def load (disk : Disk) (root : Path) (settings : Settings) : Except Fault Project := do
  settings.check
  let moduleName ← Manifest.moduleName disk (root.join settings.manifest)
  return ⟨root, settings, moduleName⟩

/-- The interface files of the project. -/
def scan (project : Project) (disk : Disk) : Except Fault (List InterfaceFile) :=
  InterfaceFile.scan disk project.root project.settings

end Project

/-- A text without slashes at its end. -/
def trimSlashes (text : Text) : Text := Text.dropEndWhile (· == '/') text

/-- The import path of the types that an interface file uses. They are in the directory above the
one of the file, and the path below `root` follows the name of the module. -/
def typesImport (root : Path) (moduleName : Text) (file : Path) : Except Fault Text :=
  match root.below? file with
  | none => .error (.invalidArgument
      (file.text ++ " is not inside ".toList ++ root.text))
  | some components =>
    let directories := components.dropLast.filterMap Path.Component.name?
    .ok (trimSlashes moduleName ++ directories.dropLast.flatMap ('/' :: ·))

end GoStubs
