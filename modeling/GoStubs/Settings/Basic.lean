import GoStubs.Text.Blank
import GoStubs.Fault

/-!
# Settings

A run has eight settings, all of them texts with defaults. Before a run they
are checked in a fixed order: nothing may be blank, the two directories must
stay inside the repository, the two file names must be names, and the file
extension has no dot in front.
-/

namespace GoStubs

structure Settings where
  scanDir : Text
  targetFile : Text
  outputDir : Text
  manifest : Text
  importMarker : Text
  clientImport : Text
  generatorName : Text
  fileExtension : Text
  deriving DecidableEq, Repr

namespace Settings

def standard : Settings where
  scanDir := "pkg/model".toList
  targetFile := "client.go".toList
  outputDir := "pkg/client".toList
  manifest := "go.mod".toList
  importMarker := "/kitex_gen/".toList
  clientImport := "github.com/volcengine/vkectl/pkg/client".toList
  generatorName := "gen-client".toList
  fileExtension := "go".toList

inductive Key
  | scanDir
  | targetFile
  | outputDir
  | manifest
  | importMarker
  | clientImport
  | generatorName
  | fileExtension
  deriving DecidableEq, Repr

namespace Key

def all : List Key :=
  [scanDir, targetFile, outputDir, manifest, importMarker, clientImport, generatorName,
    fileExtension]

def name : Key → Text
  | scanDir => "scan_dir".toList
  | targetFile => "target_file".toList
  | outputDir => "output_dir".toList
  | manifest => "manifest".toList
  | importMarker => "import_marker".toList
  | clientImport => "client_import".toList
  | generatorName => "generator_name".toList
  | fileExtension => "file_extension".toList

def ofName? (name : Text) : Option Key := all.find? fun key => key.name == name

end Key

def get (settings : Settings) : Key → Text
  | .scanDir => settings.scanDir
  | .targetFile => settings.targetFile
  | .outputDir => settings.outputDir
  | .manifest => settings.manifest
  | .importMarker => settings.importMarker
  | .clientImport => settings.clientImport
  | .generatorName => settings.generatorName
  | .fileExtension => settings.fileExtension

def set (settings : Settings) (key : Key) (value : Text) : Settings :=
  match key with
  | .scanDir => { settings with scanDir := value }
  | .targetFile => { settings with targetFile := value }
  | .outputDir => { settings with outputDir := value }
  | .manifest => { settings with manifest := value }
  | .importMarker => { settings with importMarker := value }
  | .clientImport => { settings with clientImport := value }
  | .generatorName => { settings with generatorName := value }
  | .fileExtension => { settings with fileExtension := value }

@[simp] theorem get_set_self (settings : Settings) (key : Key) (value : Text) :
    (settings.set key value).get key = value := by cases key <;> rfl

theorem get_set_of_ne (settings : Settings) {key other : Key} (h : other ≠ key) (value : Text) :
    (settings.set key value).get other = settings.get other := by
  cases key <;> cases other <;> first | rfl | exact absurd rfl h

inductive Problem
  | blank (key : Key)
  | outside (key : Key) (value : Text)
  | notAFileName (key : Key) (value : Text)
  | leadingDot
  deriving DecidableEq, Repr

def Problem.message : Problem → Text
  | .blank key => key.name ++ " cannot be empty".toList
  | .outside key value =>
    key.name ++ " must be a relative path inside the repository: ".toList ++ value
  | .notAFileName key value => key.name ++ " must be a file name, not a path: ".toList ++ value
  | .leadingDot => "file_extension must not start with '.'".toList

def problem? (settings : Settings) : Option Problem :=
  let firstOf (keys : List Key) (bad : Text → Bool) (problem : Key → Text → Problem) :=
    (keys.find? fun key => bad (settings.get key)).map fun key => problem key (settings.get key)
  firstOf Key.all (fun value => (Text.trim value).isEmpty) (fun key _ => .blank key)
    <|> firstOf [.scanDir, .outputDir] (fun value => !(Path.mk value).staysInside) .outside
    <|> firstOf [.targetFile, .manifest] (fun value => value.contains '/' || value.contains '\\')
      .notAFileName
    <|> if settings.fileExtension.head? = some '.' then some .leadingDot else none

def check (settings : Settings) : Except Fault Unit :=
  match settings.problem? with
  | some problem => .error (.configuration problem.message)
  | none => .ok ()

end Settings

end GoStubs
