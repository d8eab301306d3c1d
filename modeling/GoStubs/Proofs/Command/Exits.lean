import GoStubs.Proofs.Command.Addressed
import GoStubs.Proofs.Json.Shown

/-!
# Exit codes of a run

The program that generates stubs ends in one of three ways.  It has a stub for each interface file,
or it has gone on after failed files, and in both cases it prints its report; or a fault has stopped
it, and it prints nothing.  The exit code tells these ways apart, and of a fault it tells whether
the input is to blame, whatever the contexts around the fault are.

A report with a path that cannot be written is not printed either, and the program ends as if
something had failed.
-/

namespace GoStubs

/-- The exit code that a fault ends with. -/
def ExitCode.ofFault : Fault → ExitCode
  | .extractionFailed .. | .moduleNotFound _ | .configuration _ | .invalidArgument _ =>
    .invalidInput
  | .io .. | .scanFailed .. | .template .. => .failure

theorem ExitCode.ofFailure_eq (contexts : List Text) (fault : Fault) :
    ofFailure ⟨contexts, .fault fault⟩ = ofFault fault := by
  cases fault <;> rfl

/-- What the program leaves besides the disk when a command has ended. -/
def Outcome.ofResult : Except Failure Ending → Outcome
  | .ok ending => .ofEnding ending
  | .error failure => .ofFailure failure

namespace Project

section Runs

variable {project : Project} {files : List InterfaceFile} {disk after : Disk} {policy : Policy}
  {failed : List FailedFile} {fault : Fault}

/-- What is reported of scanned files, each of which has had its turn: the files that have failed,
and the value that is printed with the paths in it.  In a dry run the stubs are only rendered. -/
inductive Reports (project : Project) (files : List InterfaceFile) (disk : Disk) :
    Bool → List FailedFile → List Path → Json → Prop where
  | generated {stubs : List GeneratedStub} {failed : List FailedFile} {after : Disk}
      (steps : Completes project.generate files disk stubs failed after) :
      Reports project files disk false failed
        (stubs.flatMap (fun stub => [stub.source, stub.output]) ++ failed.map FailedFile.source)
        (.object [("module".toList, .string project.moduleName),
          ("generated".toList, .array (stubs.map fun stub => .object [
            ("source".toList, .string stub.source.text),
            ("output".toList, .string stub.output.text),
            ("service".toList, .string stub.service),
            ("function_count".toList, .number (.integer stub.functionCount))])),
          ("failed".toList, .array (failed.map fun file => .object [
            ("source".toList, .string file.source.text), ("error".toList, .string file.error)]))])
  | rendered {stubs : List RenderedStub} {failed : List FailedFile} {after : Disk}
      (steps : Completes project.renderStep files disk stubs failed after) :
      Reports project files disk true failed
        (stubs.flatMap (fun stub => [stub.source, stub.output]) ++ failed.map FailedFile.source)
        (.object [("module".toList, .string project.moduleName),
          ("rendered".toList, .array (stubs.map fun stub => .object [
            ("source".toList, .string stub.source.text),
            ("output".toList, .string stub.output.text),
            ("service".toList, .string stub.service),
            ("function_count".toList, .number (.integer stub.functionCount)),
            ("content".toList, .string stub.content)])),
          ("failed".toList, .array (failed.map fun file => .object [
            ("source".toList, .string file.source.text), ("error".toList, .string file.error)]))])

/-- The first of the scanned files that fails does so with the fault. -/
inductive FailsFirst (project : Project) (files : List InterfaceFile) (disk : Disk)
    (fault : Fault) : Bool → Prop where
  | generated {failed : FailedFile} {last : Disk}
      (first : FirstFailure project.generate files disk failed fault last) :
      FailsFirst project files disk fault false
  | rendered {failed : FailedFile} {last : Disk}
      (first : FirstFailure project.renderStep files disk failed fault last) :
      FailsFirst project files disk fault true

section Steps

variable {α : Type} {step : Disk → InterfaceFile → Except Fault α × Disk} {stubs : List α}
  {file : InterfaceFile} {later : List InterfaceFile} {last : Disk}

theorem Completes.process_eq (h : Completes step files disk stubs failed after)
    (hp : failed = [] ∨ policy = .keepGoing) :
    process step policy files disk = (.ok (stubs, failed), after) := by
  cases policy with
  | keepGoing => exact completes_iff.2 h
  | failFast =>
      obtain rfl : failed = [] := by simpa using hp
      exact h.process_failFast

theorem Completes.process_append (h : Completes step files disk stubs [] after)
    (hs : step after file = (.error fault, last)) :
    process step .failFast (files ++ file :: later) disk = (.error fault, last) := by
  generalize hf : ([] : List FailedFile) = none at h
  induction h with
  | done disk => simp [process, hs]
  | stub head tail ih => simp [process, head, ih hs hf]
  | failure head tail ih => cases hf

theorem FirstFailure.process_eq {first : FailedFile}
    (h : FirstFailure step files disk first fault last) :
    process step .failFast files disk = (.error fault, last) := by
  obtain ⟨before, file, later, made, earlier, rfl, hbefore, hstep, -⟩ := h
  exact (completes_iff.1 hbefore).process_append hstep

end Steps

end Runs

end Project

namespace Command

variable {library : Library} {colour : Bool} {disk : Disk} {root : Path} {config : Option Path}
  {policy : Policy} {dry : Bool} {format : Text} {output : OutputFormat} {project : Project}
  {files : List InterfaceFile} {failed : List FailedFile} {paths : List Path} {json : Json}
  {fault : Fault}

/-- The name of the format, the root, the settings and the manifest are accepted, and the interface
files are found. -/
structure Finds (disk : Disk) (root : Path) (config : Option Path) (format : Text)
    (output : OutputFormat) (project : Project) (files : List InterfaceFile) : Prop where
  output : OutputFormat.ofName format = .ok output
  isDirectory : disk.isDirectory root
  loads : ∃ settings, loadSettings disk config = .ok settings ∧
    Project.load disk root settings = .ok project
  scans : project.scan disk = .ok files

/-- The fault that stops a command: the first one on its way to the interface files, or the one of
the first failed file if the command is not to go on after it. -/
inductive StopsAt (disk : Disk) (root : Path) (config : Option Path) (policy : Policy) (dry : Bool)
    (format : Text) : Fault → Prop where
  | format {fault : Fault} (h : OutputFormat.ofName format = .error fault) :
      StopsAt disk root config policy dry format fault
  | root {output : OutputFormat} (hformat : OutputFormat.ofName format = .ok output)
      (h : disk.isDirectory root = false) :
      StopsAt disk root config policy dry format (.invalidArgument
        ("repository root ".toList ++ root.text ++ " is not a directory".toList))
  | settings {output : OutputFormat} {path : Path} {fault : Fault}
      (hformat : OutputFormat.ofName format = .ok output) (hroot : disk.isDirectory root)
      (hconfig : config = some path) (h : Settings.ofFile disk path = .error fault) :
      StopsAt disk root config policy dry format fault
  | project {output : OutputFormat} {settings : Settings} {fault : Fault}
      (hformat : OutputFormat.ofName format = .ok output) (hroot : disk.isDirectory root)
      (hsettings : loadSettings disk config = .ok settings)
      (h : Project.load disk root settings = .error fault) :
      StopsAt disk root config policy dry format fault
  | scan {output : OutputFormat} {settings : Settings} {project : Project} {fault : Fault}
      (hformat : OutputFormat.ofName format = .ok output) (hroot : disk.isDirectory root)
      (hsettings : loadSettings disk config = .ok settings)
      (hproject : Project.load disk root settings = .ok project)
      (h : project.scan disk = .error fault) :
      StopsAt disk root config policy dry format fault
  | file {output : OutputFormat} {project : Project} {files : List InterfaceFile} {fault : Fault}
      (hfinds : Finds disk root config format output project files) (hpolicy : policy = .failFast)
      (h : project.FailsFirst files disk fault dry) :
      StopsAt disk root config policy dry format fault

theorem prepare_eq {settings : Settings} (hroot : disk.isDirectory root)
    (hs : loadSettings disk config = .ok settings)
    (hl : Project.load disk root settings = .ok project) :
    prepare disk root config = .ok project := by
  simp [prepare, ensureRoot, hroot, hs, hl, bind, Except.bind, Except.mapError]

theorem Finds.prepare_eq (h : Finds disk root config format output project files) :
    prepare disk root config = .ok project := by
  obtain ⟨settings, hs, hl⟩ := h.loads
  exact Command.prepare_eq h.isDirectory hs hl

/-- A command that is not stopped ends with a report, if that can be written. -/
theorem Finds.invoke_eq (h : Finds disk root config format output project files)
    (hr : project.Reports files disk dry failed paths json) (hp : failed = [] ∨ policy = .keepGoing)
    (library : Library) (colour : Bool) :
    (invoke colour ⟨.generate root config policy dry, format⟩ disk library).1 =
      (Ending.ofJson output colour (if failed.isEmpty then .success else .failure) json).writing
        library paths := by
  cases hr with
  | generated steps =>
      have hrun := Project.run_eq h.scans policy
      rw [steps.process_eq hp] at hrun
      rcases hresult : project.run policy disk with ⟨result, last⟩
      rw [hresult] at hrun
      cases hrun
      simp only [invoke, h.output, execute, runGenerate, h.prepare_eq, hresult]
      rfl
  | rendered steps =>
      have hrun := Project.dryRun_eq h.scans policy
      rw [steps.process_eq hp] at hrun
      simp only [invoke, h.output, execute, runGenerate, h.prepare_eq, hrun]
      rfl

/-- A fault that stops a command is what it fails with, in some contexts. -/
theorem StopsAt.exists_contexts (h : StopsAt disk root config policy dry format fault)
    (library : Library) (colour : Bool) :
    ∃ contexts, (invoke colour ⟨.generate root config policy dry, format⟩ disk library).1 =
      .error ⟨contexts, .fault fault⟩ := by
  cases h with
  | format h => exact ⟨[], by simp [invoke, h, Failure.ofFault]⟩
  | root hformat h =>
      refine ⟨[], ?_⟩
      simp [invoke, hformat, execute, runGenerate, prepare, ensureRoot, h, Failure.ofFault, bind,
        Except.bind]
  | @settings output path fault hformat hroot hconfig h =>
      refine ⟨["failed to load configuration from ".toList ++ path.text], ?_⟩
      simp [invoke, hformat, execute, runGenerate, prepare, ensureRoot, hroot, hconfig,
        loadSettings, h, Failure.ofFault, Failure.within, bind, Except.bind, Except.mapError]
  | project hformat hroot hsettings h =>
      refine ⟨["failed to prepare generation for ".toList ++ root.text], ?_⟩
      simp [invoke, hformat, execute, runGenerate, prepare, ensureRoot, hroot, hsettings, h,
        Failure.ofFault, Failure.within, bind, Except.bind, Except.mapError]
  | scan hformat hroot hsettings hproject h =>
      have hprepare := prepare_eq hroot hsettings hproject
      cases dry with
      | false =>
          simp [invoke, hformat, execute, runGenerate, hprepare, Project.run, h, Failure.ofFault,
            Failure.within]
      | true =>
          simp [invoke, hformat, execute, runGenerate, hprepare, Project.dryRun, h,
            Failure.ofFault, Failure.within, bind, Except.bind]
  | @file output project files fault hfinds hpolicy h =>
      subst hpolicy
      cases h with
      | generated first =>
          have hrun := Project.run_eq hfinds.scans .failFast
          rw [first.process_eq] at hrun
          rcases hresult : project.run .failFast disk with ⟨result, last⟩
          rw [hresult] at hrun
          cases hrun
          simp [invoke, hfinds.output, execute, runGenerate, hfinds.prepare_eq, hresult,
            Failure.ofFault, Failure.within]
      | rendered first =>
          have hrun := Project.dryRun_eq hfinds.scans .failFast
          rw [first.process_eq] at hrun
          simp [invoke, hfinds.output, execute, runGenerate, hfinds.prepare_eq, hrun,
            Failure.ofFault, Failure.within, Except.map]

/-- All interface files are found, and each has a stub. -/
def Succeeds (disk : Disk) (root : Path) (config : Option Path) (dry : Bool) (format : Text) :
    Prop :=
  ∃ output project files paths json, Finds disk root config format output project files ∧
    project.Reports files disk dry [] paths json

/-- The command goes on after failed interface files, and there are some. -/
def FailsInPart (disk : Disk) (root : Path) (config : Option Path) (policy : Policy) (dry : Bool)
    (format : Text) : Prop :=
  policy = .keepGoing ∧ ∃ output project files failed paths json,
    Finds disk root config format output project files ∧
      project.Reports files disk dry failed paths json ∧ failed ≠ []

/-- There is a report, and a path in it cannot be written. -/
def Refuses (library : Library) (disk : Disk) (root : Path) (config : Option Path)
    (policy : Policy) (dry : Bool) (format : Text) : Prop :=
  ∃ output project files failed paths json,
    Finds disk root config format output project files ∧
      project.Reports files disk dry failed paths json ∧ (failed = [] ∨ policy = .keepGoing) ∧
        ∃ path ∈ paths, library.isText path = false

theorem StopsAt.outcome (h : StopsAt disk root config policy dry format fault) (library : Library)
    (colour : Bool) :
    let outcome := Outcome.ofResult
      (invoke colour ⟨.generate root config policy dry, format⟩ disk library).1
    outcome.stdout = [] ∧ outcome.exit = .ofFault fault := by
  obtain ⟨contexts, hresult⟩ := h.exists_contexts library colour
  rw [hresult]
  exact ⟨rfl, ExitCode.ofFailure_eq contexts fault⟩

theorem Refuses.outcome (h : Refuses library disk root config policy dry format) (colour : Bool) :
    Outcome.ofResult (invoke colour ⟨.generate root config policy dry, format⟩ disk library).1 =
      ⟨.failure, [], "Error: path contains invalid UTF-8 characters\n".toList⟩ := by
  obtain ⟨output, project, files, failed, paths, json, hfinds, hreports, hp, path, hm, hpath⟩ := h
  rw [hfinds.invoke_eq hreports hp, Ending.writing_of_mem hm hpath]
  decide

/-- What is reported can be written, if it is not refused. -/
theorem Finds.invoke_eq_ok (h : Finds disk root config format output project files)
    (hr : project.Reports files disk dry failed paths json) (hp : failed = [] ∨ policy = .keepGoing)
    (hw : ¬ Refuses library disk root config policy dry format) (colour : Bool) :
    (invoke colour ⟨.generate root config policy dry, format⟩ disk library).1 =
      .ok (.ofJson output colour (if failed.isEmpty then .success else .failure) json) := by
  rw [h.invoke_eq hr hp, Ending.writing_eq_ok_iff]
  refine ⟨fun path hm => ?_, rfl⟩
  cases hpath : library.isText path with
  | true => rfl
  | false =>
      exact absurd ⟨output, project, files, failed, paths, json, h, hr, hp, path, hm, hpath⟩ hw

theorem Succeeds.outcome (h : Succeeds disk root config dry format)
    (hw : ¬ Refuses library disk root config policy dry format) (colour : Bool) :
    (Outcome.ofResult
      (invoke colour ⟨.generate root config policy dry, format⟩ disk library).1).exit =
        .success := by
  obtain ⟨output, project, files, paths, json, hfinds, hreports⟩ := h
  rw [hfinds.invoke_eq_ok hreports (.inl rfl) hw]
  rfl

theorem FailsInPart.outcome (h : FailsInPart disk root config policy dry format)
    (hw : ¬ Refuses library disk root config policy dry format) (colour : Bool) :
    let outcome := Outcome.ofResult
      (invoke colour ⟨.generate root config policy dry, format⟩ disk library).1
    outcome.exit = .failure ∧ outcome.stdout ≠ [] := by
  obtain ⟨hp, output, project, files, failed, paths, json, hfinds, hreports, hf⟩ := h
  rw [hfinds.invoke_eq_ok hreports (.inr hp) hw, if_neg (by simpa using hf)]
  exact ⟨rfl, List.concat_ne_nil _ _⟩

end Command

end GoStubs
