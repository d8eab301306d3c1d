import GoStubs.Proofs.Path.Components
import GoStubs.Proofs.Project.Faults
import GoStubs.Proofs.Project.Imports
import GoStubs.Proofs.Project.Traversal

/-!
# Import paths of scanned files

A scanned file lies below the root, however the root and the scan directory are spelled, and in a
group, so there is a directory to leave out of its import path.  The path consists of the module,
the names of the scan directory, and the directories from there to the one above the file.  A run
never blames an argument, because nothing but a file outside of the root could make it do so.
-/

namespace GoStubs

open InterfaceFile (pathBelow ofNames LeadsToTarget)

theorem Path.typesDirectories_append (more : List Path.Component) {names : List Text}
    (hl : 2 ≤ names.length) :
    typesDirectories (more ++ names.map .name) =
      more.filterMap Path.Component.name? ++ names.dropLast.dropLast := by
  have hne : names ≠ [] := by
    rintro rfl
    cases hl
  have hdirectories : names.dropLast ≠ [] := by
    intro hnil
    have hlength := congrArg List.length hnil
    rw [List.length_dropLast, List.length_nil] at hlength
    omega
  have hnames : (names.dropLast.map Path.Component.name).filterMap Path.Component.name? =
      names.dropLast := by
    rw [List.filterMap_map]
    exact List.filterMap_some
  rw [typesDirectories, List.dropLast_append_of_ne_nil (by simpa using hne), ← List.map_dropLast,
    List.filterMap_append, hnames, List.dropLast_append_of_ne_nil hdirectories]

/-- The types of a file that lies at least one directory below a path joined to the root. -/
theorem typesImport_pathBelow (root : Path) (moduleName : Text) {text : Text} {names : List Text}
    (ht : text ≠ []) (h : text.head? ≠ some '/') (hn : ∀ name ∈ names, Path.IsName name)
    (hl : 2 ≤ names.length) :
    typesImport root moduleName (pathBelow (root.join text) names) =
      .ok (trimSlashes moduleName ++
        ((Path.mk text).componentNames ++ names.dropLast.dropLast).flatMap ('/' :: ·)) := by
  obtain ⟨more, hbelow, hmore⟩ := Path.exists_below?_pathBelow root ht h hn
  refine typesImport_eq_ok_iff.2 ⟨_, hbelow, ?_⟩
  rw [Path.typesDirectories_append more hl, hmore]

namespace InterfaceFile

variable {disk : Disk} {root : Path} {settings : Settings} {files : List InterfaceFile}
  {file : InterfaceFile}

theorem exists_names_of_mem_scan (h : scan disk root settings = .ok files) (hf : file ∈ files) :
    ∃ names, LeadsToTarget disk (root.join settings.scanDir) settings.targetFile names ∧
      file = ofNames (root.join settings.scanDir) names := by
  obtain ⟨⟨here, slash⟩, item, hwalk, hitem, hfile⟩ := exists_item_of_mem_scan h hf
  rw [ofItem?_eq_map_target?, Option.map_eq_some_iff] at hfile
  obtain ⟨names, htarget, rfl⟩ := hfile
  exact ⟨names, ((listsTargets_below hwalk).mem_iff names).1
    (List.mem_filterMap.2 ⟨item, hitem, htarget⟩), rfl⟩

theorem LeadsToTarget.isName {start : Path} {target : Text} {names : Location}
    (h : LeadsToTarget disk start target names) : ∀ name ∈ names, Path.IsName name := by
  obtain ⟨-, -, here, slash, content, -, hfile⟩ := h
  intro name hm
  have hall := Disk.isFileName_of_find? hfile
  exact Path.isName_of_isFileName (List.all_eq_true.1 hall name (List.mem_append_right _ hm))

end InterfaceFile

namespace Project

section Steps

variable {α : Type} {step : Disk → InterfaceFile → Except Fault α × Disk}
  {files : List InterfaceFile}

/-- No argument is to blame for an outcome, nor for any of the failed files that it reports. -/
structure SparesArguments (outcome : Except Fault (Report α)) : Prop where
  stopped : ∀ message, outcome ≠ .error (.invalidArgument message)
  recorded : ∀ report, outcome = .ok report → ∀ failed ∈ report.failed,
    ¬ "Invalid argument: ".toList <+: failed.error

/-- Steps that never blame an argument make a run that never does. -/
theorem sparesArguments_process (project : Project) (policy : Policy) (disk : Disk)
    (hs : ∀ file ∈ files, ∀ earlier fault middle, step earlier file = (.error fault, middle) →
      fault.IsOfFile) :
    SparesArguments ((process step policy files disk).1.map project.report) := by
  rcases hp : process step policy files disk with ⟨fault | ⟨stubs, failed⟩, after⟩
  · obtain ⟨file, hfile, earlier, hstep⟩ := exists_step_of_process_error hp
    have hfault := hs file hfile earlier fault after hstep
    refine ⟨fun message he => ?_, fun report hr => ?_⟩
    · exact hfault.ne_invalidArgument message (Except.error.inj he)
    · cases hr
  · refine ⟨fun message he => ?_, fun report hr failure hm => ?_⟩
    · cases he
    cases hr
    obtain ⟨file, hfile, earlier, fault, middle, hstep, rfl⟩ :=
      (completes_of_process hp).exists_step_of_mem_failed hm
    exact (hs file hfile earlier fault middle hstep).not_prefix_line

theorem sparesArguments_of_scan_error {project : Project} {disk : Disk} {fault : Fault}
    (h : project.scan disk = .error fault) :
    SparesArguments (.error fault : Except Fault (Report α)) := by
  obtain ⟨path, cause, rfl⟩ := InterfaceFile.exists_of_scan_error h
  refine ⟨fun message he => ?_, fun report hr => ?_⟩
  · cases he
  · cases hr

end Steps

variable {project : Project} {disk : Disk} {files : List InterfaceFile} {file : InterfaceFile}

theorem exists_typesImport_of_mem_scan (h : project.settings.check = .ok ())
    (hs : project.scan disk = .ok files) (hf : file ∈ files) :
    ∃ names, LeadsToTarget disk (project.root.join project.settings.scanDir)
        project.settings.targetFile names ∧
      file = ofNames (project.root.join project.settings.scanDir) names ∧
      typesImport project.root project.moduleName file.path =
        .ok (trimSlashes project.moduleName ++
          ((Path.mk project.settings.scanDir).componentNames ++
            names.dropLast.dropLast).flatMap ('/' :: ·)) := by
  have haccepted := Settings.check_eq_ok_iff.1 h
  have hscanDir : project.settings.scanDir ≠ [] := by
    intro hnil
    exact haccepted.not_blank .scanDir (congrArg Text.trim hnil)
  obtain ⟨names, htarget, rfl⟩ := InterfaceFile.exists_names_of_mem_scan hs hf
  exact ⟨names, htarget, rfl, typesImport_pathBelow _ _ hscanDir
    (Path.head?_ne_of_staysInside haccepted.scanDir) htarget.isName htarget.1⟩

theorem isFault_of_plan_error (h : project.settings.check = .ok ())
    (hs : project.scan disk = .ok files) (hf : file ∈ files) {earlier : Disk} {fault : Fault}
    (hp : project.plan earlier file = .error fault) : file.IsFault fault := by
  obtain ⟨names, -, -, hok⟩ := exists_typesImport_of_mem_scan h hs hf
  refine (plan_error_cases hp).resolve_right fun herror => ?_
  rw [hok] at herror
  cases herror

theorem sparesArguments_run (h : project.settings.check = .ok ()) (policy : Policy) (disk : Disk) :
    SparesArguments (project.run policy disk).1 := by
  rcases hscan : project.scan disk with fault | files
  · rw [run, hscan]
    exact sparesArguments_of_scan_error hscan
  · rw [run_eq hscan]
    refine sparesArguments_process project policy disk ?_
    intro file hf earlier fault middle hstep
    rcases plan_or_output_of_generate_error hstep with hp | ⟨path, hfault⟩
    · exact (isFault_of_plan_error h hscan hf hp).isOfFile
    · exact hfault.isOfFile

theorem sparesArguments_dryRun (h : project.settings.check = .ok ()) (policy : Policy)
    (disk : Disk) : SparesArguments (project.dryRun policy disk) := by
  rcases hscan : project.scan disk with fault | files
  · rw [dryRun, hscan]
    exact sparesArguments_of_scan_error hscan
  · rw [dryRun_eq hscan]
    refine sparesArguments_process project policy disk ?_
    intro file hf earlier fault middle hstep
    have hrender : project.render earlier file = .error fault := congrArg Prod.fst hstep
    exact (isFault_of_plan_error h hscan hf (plan_of_render_error hrender)).isOfFile

/-- The files that a project scans on a disk have import paths, so planning a stub on any disk can
only fail at the interface file, and a run never blames an argument. -/
structure HasImportPaths (project : Project) (disk : Disk) : Prop where
  types : ∀ files, project.scan disk = .ok files → ∀ file ∈ files, ∃ names,
    LeadsToTarget disk (project.root.join project.settings.scanDir) project.settings.targetFile
      names ∧
    file = ofNames (project.root.join project.settings.scanDir) names ∧
    typesImport project.root project.moduleName file.path =
      .ok (trimSlashes project.moduleName ++
        ((Path.mk project.settings.scanDir).componentNames ++
          names.dropLast.dropLast).flatMap ('/' :: ·))
  plan : ∀ files, project.scan disk = .ok files → ∀ file ∈ files, ∀ earlier fault,
    project.plan earlier file = .error fault → file.IsFault fault
  run : ∀ policy, SparesArguments (project.run policy disk).1
  dryRun : ∀ policy, SparesArguments (project.dryRun policy disk)

theorem hasImportPaths_of_check (h : project.settings.check = .ok ()) (disk : Disk) :
    project.HasImportPaths disk where
  types _ hs _ hf := exists_typesImport_of_mem_scan h hs hf
  plan _ hs _ hf _ _ hp := isFault_of_plan_error h hs hf hp
  run policy := sparesArguments_run h policy disk
  dryRun policy := sparesArguments_dryRun h policy disk

/-- A project whose root, scan directory and module are spelled with dots and slashes to spare. -/
def spelledSample : Project where
  root := ⟨"./r//".toList⟩
  settings := { Settings.standard with scanDir := "./m//n/.".toList }
  moduleName := "m//".toList

/-- A group with an interface file of its own and another one, without the interface, two
directories deeper. -/
def spelledDisk : Disk :=
  .ofFiles [("r/m/n/b/client.go", "package p\ntype Client interface\x7b\x7d"),
    ("r/m/n/b/c/d/client.go", "package q")]

def spelledFiles : List InterfaceFile :=
  [⟨['b'], ⟨"./r//./m//n/./b/c/d/client.go".toList⟩⟩, ⟨['b'], ⟨"./r//./m//n/./b/client.go".toList⟩⟩]

theorem hasImportPaths_of_check_spelled :
    spelledSample.settings.check = .ok () ∧ spelledSample.HasImportPaths spelledDisk ∧
      spelledSample.scan spelledDisk = .ok spelledFiles ∧
      spelledFiles.map (fun file =>
        typesImport spelledSample.root spelledSample.moduleName file.path) =
          [.ok "m/m/n/b/c".toList, .ok "m/m/n".toList] ∧
      ∃ report, (spelledSample.run .keepGoing spelledDisk).1 = .ok report ∧
        report.failed.map FailedFile.source = [⟨"./r//./m//n/./b/c/d/client.go".toList⟩] ∧
        ∀ failed ∈ report.failed, ¬ "Invalid argument: ".toList <+: failed.error := by
  have hcheck : spelledSample.settings.check = .ok () := by decide +kernel
  have hpaths : spelledSample.HasImportPaths spelledDisk := hasImportPaths_of_check hcheck _
  refine ⟨hcheck, hpaths, by decide +kernel, by decide +kernel, ?_⟩
  have hfailed : (spelledSample.run .keepGoing spelledDisk).1.map
      (fun report => report.failed.map FailedFile.source) =
        .ok [⟨"./r//./m//n/./b/c/d/client.go".toList⟩] := by decide +kernel
  rcases hrun : (spelledSample.run .keepGoing spelledDisk).1 with fault | report
  · rw [hrun] at hfailed
    cases hfailed
  · rw [hrun] at hfailed
    exact ⟨report, rfl, Except.ok.inj hfailed, (hpaths.run .keepGoing).recorded report hrun⟩

end Project

end GoStubs
