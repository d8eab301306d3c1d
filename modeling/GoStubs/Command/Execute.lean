import GoStubs.Output
import GoStubs.Settings.File
import GoStubs.Project.Run
import GoStubs.Command.Library

/-!
# Executing commands

The commands print a result in one of the formats and end with an exit code, or
fail. Generating ends with a failure code of its own if some files failed while
the others were generated. A result with a path that cannot be written is not
printed, and the command fails in the end.
-/

namespace GoStubs

/-- How a command ends that does not fail. -/
structure Ending where
  exit : ExitCode
  printed : Text
  deriving DecidableEq, Repr

def ensureRoot (disk : Disk) (root : Path) : Except Failure Unit :=
  if disk.isDirectory root then .ok ()
  else .error (.ofFault (.invalidArgument
    ("repository root ".toList ++ root.text ++ " is not a directory".toList)))

/-- The settings of a configuration file, or the standard ones if none is given. -/
def loadSettings (disk : Disk) : Option Path → Except Failure Settings
  | none => .ok .standard
  | some path =>
    (Settings.ofFile disk path).mapError fun fault =>
      (Failure.ofFault fault).within
        ("failed to load configuration from ".toList ++ path.text)

/-- Ends with a value printed on lines of its own. -/
def Ending.ofJson (output : OutputFormat) (colour : Bool) (exit : ExitCode) (value : Json) :
    Ending :=
  ⟨exit, output.format colour value ++ ['\n']⟩

/-- Ends with a report; files that failed show in the exit code. -/
def Ending.ofReport {α : Type} (output : OutputFormat) (colour : Bool)
    (json : Report α → Json) (report : Report α) : Ending :=
  .ofJson output colour (if report.isSuccess then .success else .failure) (json report)

/-- A path that is no text. -/
def Failure.unwritable : Failure := ⟨[], .other "path contains invalid UTF-8 characters".toList⟩

/-- Ends like this if the paths in what is printed can be written. -/
def Ending.writing (library : Library) (paths : List Path) (ending : Ending) :
    Except Failure Ending :=
  if paths.all library.isText then .ok ending else .error .unwritable

theorem Ending.writing_eq_ok_iff {library : Library} {paths : List Path} {ending written : Ending} :
    ending.writing library paths = .ok written ↔
      (∀ path ∈ paths, library.isText path) ∧ ending = written := by
  rw [writing, ← List.all_eq_true]
  cases paths.all library.isText <;> simp

theorem Ending.writing_of_mem {library : Library} {paths : List Path} {path : Path}
    (hm : path ∈ paths) (h : library.isText path = false) (ending : Ending) :
    ending.writing library paths = .error .unwritable := by
  unfold writing
  rw [if_neg]
  intro hall
  rw [List.all_eq_true.1 hall path hm] at h
  cases h

def InterfaceFile.json (file : InterfaceFile) : Json :=
  .object [("group".toList, .string file.group), ("path".toList, .string file.path.text)]

namespace Command

/-- Checks the root, reads the settings and loads the project. -/
def prepare (disk : Disk) (root : Path) (config : Option Path) : Except Failure Project := do
  ensureRoot disk root
  let settings ← loadSettings disk config
  (Project.load disk root settings).mapError fun fault =>
    (Failure.ofFault fault).within ("failed to prepare generation for ".toList ++ root.text)

/-- Generates the stubs of a repository, or only renders them if the run is `dry`. -/
def runGenerate (output : OutputFormat) (colour : Bool) (root : Path) (config : Option Path)
    (policy : Policy) (dry : Bool) (disk : Disk) (library : Library := .brief) :
    Except Failure Ending × Disk :=
  match prepare disk root config with
  | .error failure => (.error failure, disk)
  | .ok project =>
    if dry then
      match project.dryRun policy disk with
      | .error fault => (.error ((Failure.ofFault fault).within "dry run failed".toList), disk)
      | .ok report =>
        ((Ending.ofReport output colour Report.renderedJson report).writing library
          report.renderedPaths, disk)
    else
      match project.run policy disk with
      | (.error fault, disk) =>
        (.error ((Failure.ofFault fault).within "generation failed".toList), disk)
      | (.ok report, disk) =>
        ((Ending.ofReport output colour Report.generatedJson report).writing library
          report.generatedPaths, disk)

def runScan (output : OutputFormat) (colour : Bool) (root : Path) (config : Option Path)
    (disk : Disk) (library : Library := .brief) : Except Failure Ending := do
  ensureRoot disk root
  let settings ← loadSettings disk config
  let files ← (InterfaceFile.scan disk root settings).mapError fun fault =>
    (Failure.ofFault fault).within ("failed to scan ".toList ++ root.text)
  let scanDir := root.join settings.scanDir
  let ending : Ending := .ofJson output colour .success (.object [
    ("scan_dir".toList, .string scanDir.text),
    ("clients".toList, .array (files.map InterfaceFile.json))])
  ending.writing library (scanDir :: files.map InterfaceFile.path)

end Command

end GoStubs
