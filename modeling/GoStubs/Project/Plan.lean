import GoStubs.Interface.Read
import GoStubs.Stub.Basic
import GoStubs.Project.Basic
import GoStubs.Project.Report

/-!
# Plans

A plan is all that a stub needs, read from an interface file before anything is
written. Rendering a plan gives the content of the stub.
-/

namespace GoStubs

structure Plan where
  source : Path
  service : Service
  package : Text
  /-- Import paths with their quotes. -/
  imports : List Text
  methods : List Method
  output : Path
  deriving DecidableEq, Repr

/-- A text between double quotes. -/
def quoted (text : Text) : Text := '"' :: text ++ ['"']

/-- The imports with one more at the end, unless it is among them. -/
def withImport (imports : List Text) (more : Text) : List Text :=
  if imports.contains more then imports else imports ++ [more]

namespace Project

/-- Where the stub of an interface file goes. -/
def outputPath (project : Project) (file : InterfaceFile) (service : Service) : Path :=
  let name := "generated.".toList ++ service.fileStem ++ '.' :: project.settings.fileExtension
  ((project.root.join project.settings.outputDir).join file.group).join name

/-- Plans the stub of an interface file. The group has to be a package name, since it names the
package of the stub. -/
def plan (project : Project) (disk : Disk) (file : InterfaceFile) : Except Fault Plan := do
  let extraction := fun error => Fault.extractionFailed file.path (.interface error)
  (checkPackageName file.group).mapError extraction
  let content ← (disk.readText file.path).mapError fun error => .io file.path (.disk error)
  let found ← (Interface.ofContent project.settings.importMarker content).mapError extraction
  let types ← typesImport project.root project.moduleName file.path
  return {
    source := file.path
    service := found.service
    package := file.group
    imports := withImport found.imports (quoted types)
    methods := found.methods
    output := project.outputPath file found.service }

end Project

namespace Plan

/-- What a report says of the stub. -/
def summary (plan : Plan) : GeneratedStub where
  source := plan.source
  output := plan.output
  service := plan.service.name
  functionCount := plan.methods.length

def base (plan : Plan) (settings : Settings) : Except Fault Text :=
  Stub.base settings plan.package plan.service.name plan.imports

def wrappers (plan : Plan) : Except Fault Text := Stub.wrappers plan.service.name plan.methods

def content (plan : Plan) (settings : Settings) : Except Fault Text := do
  let base ← plan.base settings
  let wrappers ← plan.wrappers
  return base ++ wrappers

end Plan

/-- Renders the stub of an interface file. -/
def Project.render (project : Project) (disk : Disk) (file : InterfaceFile) :
    Except Fault RenderedStub := do
  let plan ← project.plan disk file
  let content ← plan.content project.settings
  return { plan.summary with content }

end GoStubs
