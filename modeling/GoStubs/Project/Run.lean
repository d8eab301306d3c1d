import GoStubs.Project.Write

/-!
# Runs

A run takes the interface files one by one. Under one policy it records the
files that fail and goes on, under the other it stops at the first of them.
-/

namespace GoStubs

inductive Policy
  | keepGoing
  | failFast
  deriving DecidableEq, Repr

namespace Project

variable {α : Type}

/-- Takes one step for each file and collects what comes of them. -/
def process (step : Disk → InterfaceFile → Except Fault α × Disk) (policy : Policy) :
    List InterfaceFile → Disk → Except Fault (List α × List FailedFile) × Disk
  | [], disk => (.ok ([], []), disk)
  | file :: rest, disk =>
    match step disk file with
    | (.ok stub, disk) =>
      match process step policy rest disk with
      | (.ok (stubs, failed), disk) => (.ok (stub :: stubs, failed), disk)
      | (.error fault, disk) => (.error fault, disk)
    | (.error fault, disk) =>
      match policy with
      | .failFast => (.error fault, disk)
      | .keepGoing =>
        match process step policy rest disk with
        | (.ok (stubs, failed), disk) => (.ok (stubs, ⟨file.path, fault.line⟩ :: failed), disk)
        | (.error fault, disk) => (.error fault, disk)

def report (project : Project) (outcome : List α × List FailedFile) : Report α :=
  ⟨project.moduleName, outcome.1, outcome.2⟩

/-- Writes the stubs of all interface files. -/
def run (project : Project) (policy : Policy) (disk : Disk) :
    Except Fault (Report GeneratedStub) × Disk :=
  match project.scan disk with
  | .error fault => (.error fault, disk)
  | .ok files =>
    let (outcome, disk) := process project.generate policy files disk
    (outcome.map project.report, disk)

/-- Renders the stubs of all interface files and leaves the disk as it is. -/
def dryRun (project : Project) (policy : Policy) (disk : Disk) :
    Except Fault (Report RenderedStub) := do
  let files ← project.scan disk
  let step (disk : Disk) (file : InterfaceFile) := (project.render disk file, disk)
  (process step policy files disk).1.map project.report

end Project

end GoStubs
