import GoStubs.Disk.File
import GoStubs.Disk.Directory
import GoStubs.Project.Plan

/-!
# Writing stubs

A stub is written in two steps: its base replaces what is at the output path,
then the wrappers are added at the end. What was written before an error stays.
-/

namespace GoStubs

namespace Stub

/-- Makes the directories that the stub at a path lies in. -/
def makeParent (disk : Disk) (path : Path) : Except Fault Unit × Disk :=
  match path.parent? with
  | none => (.ok (), disk)
  | some parent =>
    let (made, disk) := disk.makeDirectories parent
    (made.mapError fun error => .io parent (.disk error), disk)

/-- Writes the base of a stub, with the directories that it lies in. -/
def writeBase (disk : Disk) (path : Path) (base : Text) : Except Fault Unit × Disk :=
  match makeParent disk path with
  | (.error fault, disk) => (.error fault, disk)
  | (.ok _, disk) =>
    match disk.write path (Text.encode base) with
    | .ok disk => (.ok (), disk)
    | .error error => (.error (.io path (.disk error)), disk)

/-- Adds wrappers to the stub at a path; there has to be one. -/
def append (disk : Disk) (path : Path) (wrappers : Text) : Except Fault Unit × Disk :=
  match disk.append path (Text.encode wrappers) with
  | .ok disk => (.ok (), disk)
  | .error error => (.error (.io path (.disk error)), disk)

end Stub

def Plan.write (plan : Plan) (settings : Settings) (disk : Disk) : Except Fault Unit × Disk :=
  match plan.base settings with
  | .error fault => (.error fault, disk)
  | .ok base =>
    match Stub.writeBase disk plan.output base with
    | (.error fault, disk) => (.error fault, disk)
    | (.ok _, disk) =>
      match plan.wrappers with
      | .error fault => (.error fault, disk)
      | .ok wrappers => Stub.append disk plan.output wrappers

def Project.generate (project : Project) (disk : Disk) (file : InterfaceFile) :
    Except Fault GeneratedStub × Disk :=
  match project.plan disk file with
  | .error fault => (.error fault, disk)
  | .ok plan =>
    match plan.write project.settings disk with
    | (.error fault, disk) => (.error fault, disk)
    | (.ok _, disk) => (.ok plan.summary, disk)

end GoStubs
