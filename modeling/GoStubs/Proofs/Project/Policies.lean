import GoStubs.Command.Program
import GoStubs.Proofs.Project.Outputs

/-!
# What the policies have in common

A run that stops at the first failure takes the same steps as one that keeps
going, up to that failure.  If no file fails, the two end alike.  Otherwise the
one that stops gives the fault of the first failed file in the report of the
other, and leaves the disk as it is after the step of that file.
-/

namespace GoStubs

namespace Project

section Steps

variable {α : Type} {step : Disk → InterfaceFile → Except Fault α × Disk}
  {files : List InterfaceFile} {disk after : Disk} {stubs : List α} {failed : List FailedFile}
  {policy : Policy}

/-- The first failure of a run: the files before it have stubs, and taking no more files than these
and the failed one leaves the last disk. -/
def FirstFailure (step : Disk → InterfaceFile → Except Fault α × Disk) (files : List InterfaceFile)
    (disk : Disk) (failed : FailedFile) (fault : Fault) (last : Disk) : Prop :=
  ∃ before file later made earlier, files = before ++ file :: later ∧
    process step .keepGoing before disk = (.ok (made, []), earlier) ∧
    step earlier file = (.error fault, last) ∧
    failed = ⟨file.path, fault.line⟩ ∧
    process step .keepGoing (before ++ [file]) disk = (.ok (made, [failed]), last)

theorem Completes.process_failFast (h : Completes step files disk stubs [] after) :
    process step .failFast files disk = (.ok (stubs, []), after) := by
  generalize hf : ([] : List FailedFile) = failed at h
  induction h with
  | done disk => rfl
  | stub head tail ih => simp [process, head, ih hf]
  | failure head tail ih => cases hf

/-- A complete run with failures has a first one, and stopping there gives its fault. -/
theorem Completes.exists_firstFailure {first : FailedFile} {more : List FailedFile}
    (h : Completes step files disk stubs (first :: more) after) :
    ∃ fault last, FirstFailure step files disk first fault last ∧
      process step .failFast files disk = (.error fault, last) := by
  generalize hf : first :: more = failed at h
  induction h generalizing first more with
  | done disk => cases hf
  | @stub file rest disk middle after stub stubs failed head tail ih =>
      obtain ⟨fault, last, hfirst, hstop⟩ := ih hf
      obtain ⟨before, other, later, made, earlier, rfl, hbefore, hstep, hother, hthere⟩ := hfirst
      refine ⟨fault, last, ⟨file :: before, other, later, stub :: made, earlier, rfl, ?_, hstep,
        hother, ?_⟩, ?_⟩
      · simp [process, head, hbefore]
      · simp [process, head, hthere]
      · simp [process, head, hstop]
  | @failure file rest disk middle after fault stubs failed head tail ih =>
      cases hf
      refine ⟨fault, middle, ⟨[], file, rest, [], disk, rfl, rfl, head, rfl, ?_⟩, ?_⟩
      · simp [process, head]
      · simp [process, head]

/-- Under each policy, a run with a result has come to its end. -/
theorem completes_of_process (h : process step policy files disk = (.ok (stubs, failed), after)) :
    Completes step files disk stubs failed after := by
  cases policy with
  | keepGoing => exact completes_iff.1 h
  | failFast =>
      obtain ⟨made, missed, last, hc⟩ := exists_completes step files disk
      rcases missed with _ | ⟨first, more⟩
      · rw [hc.process_failFast, Prod.mk.injEq, Except.ok.injEq, Prod.mk.injEq] at h
        obtain ⟨⟨rfl, rfl⟩, rfl⟩ := h
        exact hc
      · obtain ⟨fault, there, -, hstop⟩ := hc.exists_firstFailure
        rw [hstop, Prod.mk.injEq] at h
        cases h.1

end Steps

end Project

theorem Failure.line_within_ofFault (context : Text) (fault : Fault) :
    ((Failure.ofFault fault).within context).line = context ++ ": ".toList ++ fault.line := by
  simp [line, within, ofFault, Origin.chain, Fault.line, Fault.chain, List.intercalate]

namespace Project

section Outcomes

variable {α : Type} {project : Project} {disk : Disk}
  {step : Disk → InterfaceFile → Except Fault α × Disk}
  {outcome : Policy → Except Fault (Report α) × Disk} {dry : Bool} {context : Text}

/-- The outcomes of a run under the two policies agree, and so does what the command says that stops
at the first failure. -/
structure PoliciesAgree (project : Project) (disk : Disk)
    (step : Disk → InterfaceFile → Except Fault α × Disk)
    (outcome : Policy → Except Fault (Report α) × Disk) (dry : Bool) (front : Text) : Prop where
  fault : ∀ fault after, outcome .keepGoing = (.error fault, after) →
    outcome .failFast = (.error fault, after)
  success : ∀ report after, outcome .keepGoing = (.ok report, after) → report.failed = [] →
    outcome .failFast = (.ok report, after)
  failure : ∀ report after first more, outcome .keepGoing = (.ok report, after) →
    report.failed = first :: more → ∃ files fault last, project.scan disk = .ok files ∧
      FirstFailure step files disk first fault last ∧ outcome .failFast = (.error fault, last) ∧
      fault.line = first.error ∧ ∀ output colour root config library,
        Command.prepare disk root config = .ok project → ∃ failure,
          Command.execute output colour (.generate root config .failFast dry) disk library =
            (.error failure, last) ∧
          failure.line = front ++ first.error

/-- Policies agree on any run that takes the scanned files step by step and on which the command
puts its context in front of a fault. -/
theorem policiesAgree (hrun : ∀ policy, outcome policy =
      match project.scan disk with
      | .error fault => (.error fault, disk)
      | .ok files => ((process step policy files disk).1.map project.report,
          (process step policy files disk).2))
    (hcommand : ∀ output colour root config library fault last,
      Command.prepare disk root config = .ok project →
      outcome .failFast = (.error fault, last) →
        Command.execute output colour (.generate root config .failFast dry) disk library =
          (.error ((Failure.ofFault fault).within context), last)) :
    PoliciesAgree project disk step outcome dry (context ++ ": ".toList) := by
  cases hs : project.scan disk with
  | error fault => constructor <;> simp [hrun, hs]
  | ok files =>
      -- A run that keeps going takes a step for each file, so it never ends with a fault.
      obtain ⟨stubs, failed, after, hc⟩ := exists_completes step files disk
      have hk : outcome .keepGoing = (.ok (project.report (stubs, failed)), after) := by
        simp [hrun, hs, completes_iff.2 hc, Except.map]
      refine ⟨by simp [hk], ?_, ?_⟩
      · intro report last hr hempty
        rw [hk, Prod.mk.injEq, Except.ok.injEq] at hr
        obtain ⟨rfl, rfl⟩ := hr
        cases (show failed = [] from hempty)
        simp [hrun, hs, hc.process_failFast, Except.map]
      · intro report last first more hr hfirst
        rw [hk, Prod.mk.injEq, Except.ok.injEq] at hr
        obtain ⟨rfl, rfl⟩ := hr
        cases (show failed = first :: more from hfirst)
        obtain ⟨fault, there, h, hstop⟩ := hc.exists_firstFailure
        have hfail : outcome .failFast = (.error fault, there) := by
          simp [hrun, hs, hstop, Except.map]
        have hline : fault.line = first.error := by
          obtain ⟨before, file, later, made, earlier, -, -, -, rfl, -⟩ := h
          rfl
        refine ⟨files, fault, there, hs, h, hfail, hline, ?_⟩
        intro output colour root config library hprepare
        refine ⟨_, hcommand output colour root config library fault there hprepare hfail, ?_⟩
        rw [Failure.line_within_ofFault, hline]

end Outcomes

/-- Rendering as a step of a run, which leaves the disk as it is. -/
def renderStep (project : Project) (disk : Disk) (file : InterfaceFile) :
    Except Fault RenderedStub × Disk :=
  (project.render disk file, disk)

theorem snd_process_renderStep (project : Project) (policy : Policy) (files : List InterfaceFile)
    (disk : Disk) : (process project.renderStep policy files disk).2 = disk := by
  induction files with
  | nil => rfl
  | cons file rest ih =>
      have hp : process project.renderStep policy rest disk =
          ((process project.renderStep policy rest disk).1, disk) := Prod.ext rfl ih
      cases hresult : (process project.renderStep policy rest disk).1
      all_goals
        rw [hresult] at hp
        cases hr : project.render disk file <;> cases policy <;> simp [process, renderStep, hr, hp]

section Runs

variable {project : Project} {files : List InterfaceFile} {disk : Disk}

theorem run_eq (h : project.scan disk = .ok files) (policy : Policy) :
    (project.run policy disk).1 =
      (process project.generate policy files disk).1.map project.report := by
  simp [run, h]

theorem dryRun_eq (h : project.scan disk = .ok files) (policy : Policy) :
    project.dryRun policy disk =
      (process project.renderStep policy files disk).1.map project.report := by
  rw [dryRun, h]
  rfl

end Runs

/-- The two policies agree.  If no file fails, a run that stops at the first failure ends like one
that keeps going.  Otherwise it ends at the first failure in the report of the other, with the fault
that the report has a line of, and so does the command, which puts a context in front of that line.
A dry run relates the policies in the same way. -/
theorem policies_agree (project : Project) (disk : Disk) :
    PoliciesAgree project disk project.generate (fun policy => project.run policy disk)
        false "generation failed: ".toList ∧
      PoliciesAgree project disk project.renderStep (fun policy => (project.dryRun policy disk, disk))
        true "dry run failed: ".toList := by
  have hrun : "generation failed: ".toList = "generation failed".toList ++ ": ".toList := by decide
  have hdry : "dry run failed: ".toList = "dry run failed".toList ++ ": ".toList := by decide
  constructor
  · rw [hrun]
    apply policiesAgree
    · intro policy
      unfold run
      cases project.scan disk <;> rfl
    · intro output colour root config library fault last hprepare hstop
      simp [Command.execute, Command.runGenerate, hprepare, hstop]
  · rw [hdry]
    apply policiesAgree
    · intro policy
      cases hs : project.scan disk with
      | error fault => simp [dryRun, hs, bind, Except.bind]
      | ok files =>
          simp only [snd_process_renderStep, dryRun, hs]
          rfl
    · intro output colour root config library fault last hprepare hstop
      rw [Prod.mk.injEq] at hstop
      simp [Command.execute, Command.runGenerate, hprepare, hstop.1, ← hstop.2]

def standardSample : Project := ⟨⟨['.']⟩, .standard, ['m']⟩

/-- A repository where the second of three interface files declares no interface. -/
def mixedDisk : Disk :=
  .ofFiles [("go.mod", "module m"),
    ("pkg/model/a/x/client.go", "package p\ntype Client interface\x7b\x7d"),
    ("pkg/model/b/x/client.go", "package p"),
    ("pkg/model/c/x/client.go", "package p\ntype Client interface\x7b\x7d")]

def mixedFailure : FailedFile where
  source := ⟨"./pkg/model/b/x/client.go".toList⟩
  error := "Failed to extract client interface from ./pkg/model/b/x/client.go: ".toList ++
    "'type Client interface' declaration not found".toList

/-- The run that stops has not come to the third file, and both commands that stop give the line of
the second. -/
theorem policies_agree_sample :
    ∃ report after fault last, standardSample.run .keepGoing mixedDisk = (.ok report, after) ∧
      report.failed = [mixedFailure] ∧
      standardSample.run .failFast mixedDisk = (.error fault, last) ∧
      fault.line = mixedFailure.error ∧
      last.read ⟨"pkg/client/c/generated.p.go".toList⟩ = .error .notFound ∧
      (∃ failure, Command.execute .text false (.generate ⟨['.']⟩ none .failFast false) mixedDisk =
          (.error failure, last) ∧
        failure.line = "generation failed: ".toList ++ mixedFailure.error) ∧
      ∃ failure, Command.execute .text false (.generate ⟨['.']⟩ none .failFast true) mixedDisk =
          (.error failure, mixedDisk) ∧
        failure.line = "dry run failed: ".toList ++ mixedFailure.error := by
  obtain ⟨hrun, hdry⟩ := policies_agree standardSample mixedDisk
  have hprepare : Command.prepare mixedDisk ⟨['.']⟩ none = .ok standardSample := by decide +kernel
  have hresult : (standardSample.run .keepGoing mixedDisk).1.map Report.failed =
      .ok [mixedFailure] := by decide +kernel
  have hlast : (standardSample.run .failFast mixedDisk).2.read
      ⟨"pkg/client/c/generated.p.go".toList⟩ = .error .notFound := by decide +kernel
  have hdryResult : (standardSample.dryRun .keepGoing mixedDisk).map Report.failed =
      .ok [mixedFailure] := by decide +kernel
  rcases hr : standardSample.run .keepGoing mixedDisk with ⟨_ | report, after⟩
  · simp [hr, Except.map] at hresult
  rcases hd : standardSample.dryRun .keepGoing mixedDisk with _ | rendered
  · simp [hd, Except.map] at hdryResult
  simp only [hr, hd, Except.map, Except.ok.injEq] at hresult hdryResult
  obtain ⟨files, fault, last, -, -, hstop, hline, hcommand⟩ := hrun.failure _ _ _ _ hr hresult
  obtain ⟨_, _, there, -, -, hdryStop, -, hdryCommand⟩ :=
    hdry.failure rendered mixedDisk _ _ (congrArg (·, mixedDisk) hd) hdryResult
  obtain ⟨-, rfl⟩ := Prod.mk.inj hdryStop
  rw [hstop] at hlast
  exact ⟨report, after, fault, last, rfl, hresult, hstop, hline, hlast,
    hcommand .text false _ none .brief hprepare, hdryCommand .text false _ none .brief hprepare⟩

end Project

end GoStubs
