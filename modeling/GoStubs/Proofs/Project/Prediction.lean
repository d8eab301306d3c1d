import GoStubs.Proofs.Project.Independence
import GoStubs.Proofs.Project.Policies

/-!
# What a dry run predicts

A dry run renders what a run would write.  With the standard directories the interface files do not
affect each other, so both reports come from the files taken one by one on the same disk.  A file
that cannot be rendered fails in the same way in both.  One that can is generated as it was
rendered, unless the output cannot be written.
-/

namespace GoStubs

/-- Whether there is a stub for an interface file. -/
def Report.Generates (report : Report GeneratedStub) (source : Path) : Prop :=
  source ∈ report.stubs.map GeneratedStub.source

/-- What the report of a dry run says of the report of a run. -/
structure Report.Predicts (dry : Report RenderedStub) (report : Report GeneratedStub) : Prop where
  moduleName : report.moduleName = dry.moduleName
  failed : dry.failed.Sublist report.failed
  stubs : report.stubs.Sublist (dry.stubs.map RenderedStub.toGeneratedStub)
  lost : ∀ rendered ∈ dry.stubs, ¬ report.Generates rendered.source →
    ∃ fault, Stub.IsOutputFault rendered.output fault ∧
      ⟨rendered.source, fault.line⟩ ∈ report.failed
  complete : (∀ rendered ∈ dry.stubs, report.Generates rendered.source) →
    report.failed = dry.failed ∧ report.stubs = dry.stubs.map RenderedStub.toGeneratedStub

theorem sublist_filterMap {α β : Type} {f g : α → Option β} {list : List α}
    (h : ∀ a ∈ list, ∀ b, f a = some b → g a = some b) :
    (list.filterMap f).Sublist (list.filterMap g) := by
  induction list with
  | nil => exact List.Sublist.refl []
  | cons a list ih =>
      obtain ⟨ha, hrest⟩ := List.forall_mem_cons.1 h
      cases hf : f a with
      | none =>
          rw [List.filterMap_cons_none hf]
          apply (ih hrest).trans
          cases hg : g a with
          | none => rw [List.filterMap_cons_none hg]
          | some b =>
              rw [List.filterMap_cons_some hg]
              exact List.sublist_cons_self b _
      | some b =>
          rw [List.filterMap_cons_some hf, List.filterMap_cons_some (ha b hf)]
          exact (ih hrest).cons_cons b

namespace Project

variable {project : Project} {disk after : Disk} {files : List InterfaceFile}
  {file other : InterfaceFile}

/-- What a report of a dry run says if each interface file is taken alone. -/
def dryReportAlone (project : Project) (disk : Disk) (files : List InterfaceFile) :
    Report RenderedStub where
  moduleName := project.moduleName
  stubs := files.filterMap fun file => (project.render disk file).toOption
  failed := files.filterMap fun file => failure? file (project.render disk file)

theorem dryRun_keepGoing_eq (project : Project) (disk : Disk) :
    project.dryRun .keepGoing disk = (project.scan disk).map (project.dryReportAlone disk) := by
  cases hscan : project.scan disk with
  | error fault => simp [dryRun, hscan, bind, Except.bind, Except.map]
  | ok files =>
      obtain ⟨stubs, failed, after, hc⟩ := exists_completes project.renderStep files disk
      have hstep : ∀ file ∈ files, ∀ other, other = disk →
          (project.renderStep other file).1 = project.render disk file ∧
            (project.renderStep other file).2 = disk := by
        rintro file - _ rfl
        exact ⟨rfl, rfl⟩
      have hrun : project.dryRun .keepGoing disk = .ok (project.report (stubs, failed)) := by
        have hprocess := congrArg (fun result => result.1.map project.report) (completes_iff.2 hc)
        simp only [dryRun, hscan]
        exact hprocess
      obtain ⟨rfl, rfl⟩ := hc.eq_filterMap hstep rfl
      exact hrun

/-- Scanned files with the same path are the same. -/
theorem eq_of_path_eq (hk : project.settings.KeepsPlaces) (hscan : project.scan disk = .ok files)
    (hf : file ∈ files) (ho : other ∈ files) (h : file.path = other.path) : file = other := by
  obtain ⟨here, hl⟩ := exists_leads_of_mem_scan hk hscan hf
  obtain ⟨names, -, hfile, -⟩ := exists_isSource_of_mem_scan hk hscan hf hl
  obtain ⟨others, -, hother, -⟩ := exists_isSource_of_mem_scan hk hscan ho hl
  have hsegments := congrArg Path.segments h
  rw [hfile.path, hother.path, hl.endsInName.segments_pathBelow hfile.isName_cons,
    hl.endsInName.segments_pathBelow hother.isName_cons, List.append_cancel_left_eq] at hsegments
  have hgroup : file.group = other.group := (List.cons.inj (List.cons.inj hsegments).2).1
  cases file
  cases other
  cases h
  cases hgroup
  rfl

/-- A file that is taken alone fails as it is rendered, is generated as it is rendered, or fails at
its output. -/
theorem result_cases (project : Project) (disk : Disk) (file : InterfaceFile) :
    (∃ fault, project.render disk file = .error fault ∧
      (project.generate disk file).1 = .error fault) ∨
    ∃ rendered, project.render disk file = .ok rendered ∧ rendered.source = file.path ∧
      ((∃ fault, (project.generate disk file).1 = .error fault ∧
        Stub.IsOutputFault rendered.output fault) ∨
      (project.generate disk file).1 = .ok rendered.toGeneratedStub) := by
  rcases project.generate_cases disk file with
    ⟨fault, hr, hg⟩ | ⟨rendered, hr, ⟨fault, last, hg, hfault, -⟩ | ⟨location, last, hg, -⟩⟩
  · exact .inl ⟨fault, hr, by rw [hg]⟩
  · exact .inr ⟨rendered, hr, (source_of_render hr).1, .inl ⟨fault, by rw [hg], hfault⟩⟩
  · exact .inr ⟨rendered, hr, (source_of_render hr).1, .inr (by rw [hg])⟩

theorem source_of_generate {stub : GeneratedStub}
    (h : (project.generate disk file).1 = .ok stub) : stub.source = file.path := by
  obtain ⟨rendered, -, hr, rfl, -⟩ := exists_location_of_generate (Prod.ext h rfl)
  exact (source_of_render hr).1

theorem generates_reportAlone_iff {source : Path} :
    (project.reportAlone disk files).Generates source ↔
      ∃ file ∈ files, file.path = source ∧ ∃ stub, (project.generate disk file).1 = .ok stub := by
  rw [Report.Generates, List.mem_map]
  constructor
  · rintro ⟨stub, hstub, rfl⟩
    obtain ⟨file, hfile, hg⟩ := List.mem_filterMap.1 hstub
    rw [Except.toOption_eq_some_iff] at hg
    exact ⟨file, hfile, (source_of_generate hg).symm, stub, hg⟩
  · rintro ⟨file, hfile, rfl, stub, hg⟩
    refine ⟨stub, List.mem_filterMap.2 ⟨file, hfile, ?_⟩, source_of_generate hg⟩
    rw [hg]
    rfl

/-- The reports of files taken one by one agree, whatever the disk is. -/
theorem predicts_reportAlone (disk : Disk)
    (hinjective : ∀ file ∈ files, ∀ other ∈ files, file.path = other.path → file = other) :
    (project.dryReportAlone disk files).Predicts (project.reportAlone disk files) := by
  refine ⟨rfl, ?_, ?_, ?_, ?_⟩
  · apply sublist_filterMap
    intro file _ failed hfailed
    rcases project.result_cases disk file with ⟨fault, hr, hg⟩ | ⟨rendered, hr, -⟩
    · rw [hg]
      rw [hr] at hfailed
      exact hfailed
    · rw [hr] at hfailed
      cases hfailed
  · rw [dryReportAlone, List.map_filterMap]
    apply sublist_filterMap
    intro file _ stub hstub
    rcases project.result_cases disk file with
      ⟨fault, -, hg⟩ | ⟨rendered, hr, -, ⟨fault, hg, -⟩ | hg⟩
    · rw [hg] at hstub
      cases hstub
    · rw [hg] at hstub
      cases hstub
    · rw [hg] at hstub
      cases hstub
      rw [hr]
      rfl
  · intro rendered hrendered hlost
    obtain ⟨file, hfile, hr⟩ := List.mem_filterMap.1 hrendered
    rw [Except.toOption_eq_some_iff] at hr
    rcases project.result_cases disk file with
      ⟨fault, hother, -⟩ | ⟨other, hother, hs, ⟨fault, hg, hfault⟩ | hg⟩
    · rw [hr] at hother
      cases hother
    · cases hr.symm.trans hother
      refine ⟨fault, hfault, List.mem_filterMap.2 ⟨file, hfile, ?_⟩⟩
      rw [hg, hs]
      rfl
    · cases hr.symm.trans hother
      exact absurd (generates_reportAlone_iff.2 ⟨file, hfile, hs.symm, _, hg⟩) hlost
  · intro hall
    have hresult : ∀ file ∈ files, (project.generate disk file).1 =
        (project.render disk file).map RenderedStub.toGeneratedStub := by
      intro file hfile
      rcases project.result_cases disk file with ⟨fault, hr, hg⟩ | ⟨rendered, hr, hs, hg⟩
      · rw [hr, hg]
        rfl
      · -- What is rendered for the file is generated, and for no other file with its path.
        have hmem : rendered ∈ (project.dryReportAlone disk files).stubs :=
          List.mem_filterMap.2 ⟨file, hfile, by rw [hr]; rfl⟩
        obtain ⟨other, hother, hpath, stub, hstub⟩ := generates_reportAlone_iff.1 (hall _ hmem)
        obtain rfl := hinjective other hother file hfile (hpath.trans hs)
        rcases hg with ⟨fault, hg, -⟩ | hg
        · rw [hstub] at hg
          cases hg
        · rw [hr, hg]
          rfl
    constructor
    · apply List.filterMap_congr
      intro file hfile
      rw [hresult file hfile]
      cases project.render disk file <;> rfl
    · rw [dryReportAlone, List.map_filterMap]
      apply List.filterMap_congr
      intro file hfile
      rw [hresult file hfile]
      cases project.render disk file <;> rfl

end Project

/-! ### Both ends -/

/-- How a run ends on a disk, next to how the dry run has ended. -/
inductive Foretold (disk : Disk) :
    Except Fault (Report RenderedStub) → Except Fault (Report GeneratedStub) × Disk → Prop where
  | fault (fault : Fault) : Foretold disk (.error fault) (.error fault, disk)
  | report {dry : Report RenderedStub} {report : Report GeneratedStub} (after : Disk)
      (predicts : dry.Predicts report) : Foretold disk (.ok dry) (.ok report, after)

/-- The exit code with which the program ends. -/
def Command.exitOf : Except Failure Ending → ExitCode
  | .ok ending => (Outcome.ofEnding ending).exit
  | .error failure => (Outcome.ofFailure failure).exit

theorem Command.snd_runGenerate_dry (output : OutputFormat) (colour : Bool) (root : Path)
    (config : Option Path) (policy : Policy) (disk : Disk) (library : Library) :
    (runGenerate output colour root config policy true disk library).2 = disk := by
  unfold runGenerate
  cases prepare disk root config with
  | error failure => rfl
  | ok project =>
      simp only [if_true]
      cases project.dryRun policy disk <;> rfl

theorem ExitCode.ofFailure_within (context : Text) (failure : Failure) :
    ofFailure (failure.within context) = ofFailure failure := rfl

namespace Project

variable {project : Project} {disk : Disk}

theorem foretold (hk : project.settings.KeepsPlaces) (disk : Disk) :
    Foretold disk (project.dryRun .keepGoing disk) (project.run .keepGoing disk) := by
  rw [dryRun_keepGoing_eq]
  cases hscan : project.scan disk with
  | error fault =>
      have hrun : project.run .keepGoing disk = (.error fault, disk) := by simp [run, hscan]
      rw [hrun]
      exact .fault fault
  | ok files =>
      have hreport := (run_keepGoing_eq project disk hk).1
      rw [hscan] at hreport
      have hrun : project.run .keepGoing disk =
          (.ok (project.reportAlone disk files), (project.run .keepGoing disk).2) :=
        Prod.ext hreport rfl
      rw [hrun]
      apply Foretold.report
      apply predicts_reportAlone
      intro file hf other ho hpath
      exact eq_of_path_eq hk hscan hf ho hpath

/-- With the standard directories, a dry run that keeps going predicts the run.  It leaves the disk
as it is, and ends with the fault of the run or with a report that predicts the one of the run.  If
what is rendered is generated, the two commands end with the same exit code. -/
theorem dryRun_predicts_run (project : Project) (disk : Disk)
    (hk : project.settings.KeepsPlaces) :
    Foretold disk (project.dryRun .keepGoing disk) (project.run .keepGoing disk) ∧
    ∀ output colour root config library,
      (Command.execute output colour (.generate root config .keepGoing true) disk library).2 =
        disk ∧
      (Command.prepare disk root config = .ok project →
        (∀ dry report after, project.dryRun .keepGoing disk = .ok dry →
          project.run .keepGoing disk = (.ok report, after) →
            ∀ rendered ∈ dry.stubs, report.Generates rendered.source) →
        Command.exitOf
            (Command.execute output colour (.generate root config .keepGoing true) disk library).1 =
          Command.exitOf
            (Command.execute output colour (.generate root config .keepGoing false) disk
              library).1) := by
  have h := foretold hk disk
  refine ⟨h, fun output colour root config library => ⟨?_, ?_⟩⟩
  · exact Command.snd_runGenerate_dry output colour root config .keepGoing disk library
  · intro hprepare hall
    generalize hdry : project.dryRun .keepGoing disk = dry at h hall
    generalize hrun : project.run .keepGoing disk = result at h hall
    cases h with
    | fault fault =>
        simp [Command.execute, Command.runGenerate, hprepare, hdry, hrun, Command.exitOf,
          Outcome.ofFailure, ExitCode.ofFailure_within]
    | @report dry report after predicts =>
        obtain ⟨hfailed, hstubs⟩ := predicts.complete (hall _ _ _ rfl rfl)
        have hpaths : report.generatedPaths = dry.renderedPaths := by
          rw [Report.generatedPaths, Report.renderedPaths, Report.pathsWith, Report.pathsWith,
            hfailed, hstubs, List.flatMap_map]
          rfl
        simp only [Command.execute, Command.runGenerate, hprepare, hdry, hrun, hpaths,
          Ending.writing, if_true, if_false, Bool.false_eq_true]
        cases dry.renderedPaths.all library.isText
        · rfl
        · simp [Command.exitOf, Outcome.ofEnding, Ending.ofReport, Ending.ofJson, Report.isSuccess,
            hfailed]

/-- A file in the way of a group is found when its stub is written, and not before.  Without such a
file the commands end alike, here with a file that fails in both. -/
theorem dryRun_predicts_run_sample :
    (∃ dry report after, crowdedSample.dryRun .keepGoing crowdedDisk = .ok dry ∧
      crowdedSample.run .keepGoing crowdedDisk = (.ok report, after) ∧ dry.Predicts report ∧
      ¬ report.Generates ⟨"./pkg/model/c/x/client.go".toList⟩ ∧
      dry.stubs.map (·.source) = [⟨"./pkg/model/a/x/client.go".toList⟩,
        ⟨"./pkg/model/a/y/client.go".toList⟩, ⟨"./pkg/model/c/x/client.go".toList⟩]) ∧
    Command.exitOf (Command.execute .text false (.generate ⟨['.']⟩ none .keepGoing false)
      mixedDisk).1 = .failure := by
  constructor
  · have hsources : (crowdedSample.dryRun .keepGoing crowdedDisk).map
        (fun report => report.stubs.map (·.source)) = .ok [⟨"./pkg/model/a/x/client.go".toList⟩,
          ⟨"./pkg/model/a/y/client.go".toList⟩, ⟨"./pkg/model/c/x/client.go".toList⟩] := by
      decide +kernel
    have hlost : (crowdedSample.run .keepGoing crowdedDisk).1.map
        (fun report => report.stubs.map GeneratedStub.source) =
          .ok [⟨"./pkg/model/a/x/client.go".toList⟩, ⟨"./pkg/model/a/y/client.go".toList⟩] := by
      decide +kernel
    obtain ⟨h, -⟩ := dryRun_predicts_run crowdedSample crowdedDisk ⟨rfl, rfl, rfl⟩
    generalize hdry : crowdedSample.dryRun .keepGoing crowdedDisk = dry at h hsources
    generalize hrun : crowdedSample.run .keepGoing crowdedDisk = result at h hlost
    cases h with
    | fault fault => cases hsources
    | @report dry report after predicts =>
        have hstubs : report.stubs.map GeneratedStub.source =
            [⟨"./pkg/model/a/x/client.go".toList⟩, ⟨"./pkg/model/a/y/client.go".toList⟩] :=
          Except.ok.inj hlost
        refine ⟨dry, report, after, rfl, rfl, predicts, ?_, Except.ok.inj hsources⟩
        rw [Report.Generates, hstubs]
        decide +kernel
  · have hprepare : Command.prepare mixedDisk ⟨['.']⟩ none = .ok standardSample := by
      decide +kernel
    have hsources : (standardSample.dryRun .keepGoing mixedDisk).map
        (fun report => report.stubs.map (·.source)) =
          (standardSample.run .keepGoing mixedDisk).1.map
            (fun report => report.stubs.map GeneratedStub.source) := by decide +kernel
    have hexit : Command.exitOf (Command.execute .text false
        (.generate ⟨['.']⟩ none .keepGoing true) mixedDisk).1 = .failure := by decide +kernel
    obtain ⟨-, hcommands⟩ := dryRun_predicts_run standardSample mixedDisk ⟨rfl, rfl, rfl⟩
    rw [← hexit]
    refine ((hcommands .text false ⟨['.']⟩ none .brief).2 hprepare ?_).symm
    intro dry report after hdry hrun rendered hrendered
    rw [hdry, hrun] at hsources
    have hsame : dry.stubs.map (·.source) = report.stubs.map GeneratedStub.source :=
      Except.ok.inj hsources
    rw [Report.Generates, ← hsame]
    exact List.mem_map_of_mem hrendered

end Project

end GoStubs
