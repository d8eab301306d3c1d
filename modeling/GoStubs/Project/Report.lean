import GoStubs.Json.Value
import GoStubs.Path

/-!
# Reports

A run reports what became of each interface file: the stub that was written or
rendered, or the error. A run has succeeded if no file failed.
-/

namespace GoStubs

structure GeneratedStub where
  source : Path
  output : Path
  service : Text
  functionCount : Nat
  deriving DecidableEq, Repr

structure RenderedStub extends GeneratedStub where
  content : Text
  deriving DecidableEq, Repr

structure FailedFile where
  source : Path
  error : Text
  deriving DecidableEq, Repr

structure Report (α : Type) where
  moduleName : Text
  stubs : List α
  failed : List FailedFile
  deriving DecidableEq, Repr

namespace GeneratedStub

def fields (stub : GeneratedStub) : List (Text × Json) :=
  [("source".toList, .string stub.source.text), ("output".toList, .string stub.output.text),
    ("service".toList, .string stub.service),
    ("function_count".toList, .number (.ofNat stub.functionCount))]

def json (stub : GeneratedStub) : Json := .object stub.fields

end GeneratedStub

def RenderedStub.json (stub : RenderedStub) : Json :=
  .object (stub.fields ++ [("content".toList, .string stub.content)])

def FailedFile.json (file : FailedFile) : Json :=
  .object [("source".toList, .string file.source.text), ("error".toList, .string file.error)]

namespace Report

variable {α : Type}

def isSuccess (report : Report α) : Bool := report.failed.isEmpty

/-- The number of wrappers in all stubs that were written, counted in 64 bits. -/
def functionCount (report : Report GeneratedStub) : UInt64 :=
  report.stubs.foldr (fun stub count => .ofNat stub.functionCount + count) 0

/-- A report as JSON; `key` names the list of its stubs. -/
def jsonWith (key : Text) (stub : α → Json) (report : Report α) : Json :=
  .object [
    ("module".toList, .string report.moduleName),
    (key, .array (report.stubs.map stub)),
    ("failed".toList, .array (report.failed.map FailedFile.json))]

/-- The paths in a report; `stub` gives what was made of a file. -/
def pathsWith (stub : α → GeneratedStub) (report : Report α) : List Path :=
  report.stubs.flatMap (fun a => [(stub a).source, (stub a).output]) ++
    report.failed.map FailedFile.source

def generatedPaths (report : Report GeneratedStub) : List Path := report.pathsWith id

def renderedPaths (report : Report RenderedStub) : List Path :=
  report.pathsWith RenderedStub.toGeneratedStub

def generatedJson (report : Report GeneratedStub) : Json :=
  report.jsonWith "generated".toList GeneratedStub.json

def renderedJson (report : Report RenderedStub) : Json :=
  report.jsonWith "rendered".toList RenderedStub.json

end Report

end GoStubs
