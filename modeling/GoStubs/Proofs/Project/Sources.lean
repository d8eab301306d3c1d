import GoStubs.Proofs.Project.Containment

/-!
# Interface files that a run keeps

A run writes to the output paths that it reports, and its interface files are where the scan has
found them.  Both kinds of places are settled by their paths.  So a stub takes the place of an
interface file only if stubs go to the scan directory or below it, and interface files have the
name of a stub.  Nothing checks that, and then the file is lost.
-/

namespace GoStubs

/-- Settings with which a stub may go to the place of an interface file. -/
structure Settings.Overlap (settings : Settings) : Prop where
  directory : (Path.mk settings.scanDir).names <+: (Path.mk settings.outputDir).names
  name : ∃ stem : Text, stem.IsStem ∧
    settings.targetFile = "generated.".toList ++ stem ++ '.' :: settings.fileExtension

namespace InterfaceFile

variable {disk : Disk} {root : Path} {settings : Settings} {files : List InterfaceFile}
  {file : InterfaceFile}

theorem resolve_pathBelow (start : Path) {names : Location} (hn : names.all isFileName)
    (workingDirectory : Location) :
    (pathBelow start names).resolve workingDirectory =
      start.resolve workingDirectory ++ names := by
  induction names generalizing start with
  | nil => simp [pathBelow]
  | cons name names ih =>
      rw [List.all_cons, Bool.and_eq_true] at hn
      have hname := Path.isName_of_isFileName hn.1
      change (pathBelow (start.join name) names).resolve workingDirectory = _
      rw [ih _ hn.2, Path.resolve_join_name _ hname.2.2.1 hname.1 hname.2.1, List.append_assoc]
      rfl

/-- The path of a scanned file leads to the file, from the scan directory by way of a group. -/
theorem exists_resolve_of_mem_scan (h : scan disk root settings = .ok files) (hf : file ∈ files) :
    ∃ names content, file.path.resolve disk.workingDirectory =
        (root.join settings.scanDir).resolve disk.workingDirectory ++
          (file.group :: names ++ [settings.targetFile]) ∧
      disk.find? (file.path.resolve disk.workingDirectory) = some (.file content) := by
  obtain ⟨spot, item, hwalk, hitem, hfile⟩ := exists_item_of_mem_scan h hf
  obtain ⟨group, name, names, content, rfl, hlast, rfl⟩ := ofItem?_eq_some hfile
  obtain ⟨hentry, -⟩ := Disk.find?_of_mem_below hitem
  have hall := Disk.isFileName_of_find? hentry
  rw [List.all_append, Bool.and_eq_true] at hall
  obtain ⟨front, hfront⟩ := List.getLast?_eq_some_iff.1 hlast
  rw [resolve_pathBelow _ hall.2, ← Disk.location_of_walk hwalk]
  exact ⟨front, content, by rw [hfront, List.cons_append], hentry⟩

/-- A scanned file whose place is not written is read as before. -/
theorem read_eq_of_grows {after : Disk} {written : Location → Prop}
    (h : scan disk root settings = .ok files) (hf : file ∈ files)
    (hgrows : Disk.Grows written disk after)
    (hw : ¬ written (file.path.resolve disk.workingDirectory)) :
    after.read file.path = disk.read file.path := by
  obtain ⟨location, content, hcontent, hwalk⟩ := exists_location_of_mem_scan h hf
  by_cases hl : Text.utf8Size file.path.text ≤ Disk.longestPath
  · have hlocation : location = file.path.resolve disk.workingDirectory :=
      Disk.location_of_walk (hwalk hl)
    rw [← hlocation] at hw
    have hkept := (hgrows.file_eq hw).2 hcontent
    have hbefore : disk.read file.path = .ok content :=
      Disk.read_eq_ok_iff.2 ⟨location, hwalk hl, hcontent⟩
    have hafter : after.read file.path = .ok content :=
      Disk.read_eq_ok_iff.2 ⟨location, hgrows.walk (hwalk hl) (.inr ⟨content, hkept⟩), hkept⟩
    rw [hbefore, hafter]
  · obtain ⟨error, hlong⟩ := Disk.exists_walk_of_long (Nat.lt_of_not_le hl)
    rw [Disk.read, Disk.read, hlong, hlong]
    rfl

end InterfaceFile

namespace Project

variable {project : Project} {files : List InterfaceFile} {file : InterfaceFile}
  {disk after : Disk} {stubs : List GeneratedStub} {failed : List FailedFile} {stub : GeneratedStub}

/-- Each stub of a complete run comes from a plan. -/
theorem Completes.exists_plan (h : Completes project.generate files disk stubs failed after)
    (hm : stub ∈ stubs) :
    ∃ file ∈ files, ∃ earlier plan, project.plan earlier file = .ok plan ∧ stub = plan.summary := by
  obtain ⟨before, later, rfl⟩ := List.append_of_mem hm
  obtain ⟨first, file, rest, earlier, middle, -, -, rfl, -, hstep, -⟩ := h.split
  obtain ⟨rendered, -, hrender, rfl, -⟩ := exists_location_of_generate hstep
  simp only [render, Except.bind_eq_ok_iff, Except.pure_eq_ok_iff] at hrender
  obtain ⟨plan, hplan, content, -, rfl⟩ := hrender
  exact ⟨file, by simp, earlier, plan, hplan, rfl⟩

/-- If a stub goes to the place of a scanned file, the settings overlap. -/
theorem overlap_of_resolve_eq {plan : Plan} {earlier : Disk} {source : InterfaceFile}
    (hc : project.settings.check = .ok ()) (hs : '/' ∉ project.settings.fileExtension)
    (hscan : project.scan disk = .ok files) (hfile : file ∈ files)
    (hplan : project.plan earlier source = .ok plan)
    (h : plan.output.resolve disk.workingDirectory = file.path.resolve disk.workingDirectory) :
    project.settings.Overlap := by
  have haccepted := Settings.check_eq_ok_iff.1 hc
  obtain ⟨names, content, hsource, -⟩ := InterfaceFile.exists_resolve_of_mem_scan hscan hfile
  rw [resolve_output hs hplan, hsource, Path.resolve_join_of_staysInside _ haccepted.scanDir,
    Path.resolve_join_of_staysInside _ haccepted.outputDir, List.append_assoc, List.append_assoc,
    List.append_cancel_left_eq] at h
  -- The two locations have the last name and the directory above the last two in common.
  obtain ⟨front, last, hfront⟩ : ∃ front last, file.group :: names = front ++ [last] :=
    ⟨_, _, (List.dropLast_concat_getLast (List.cons_ne_nil file.group names)).symm⟩
  have hlocation : ((Path.mk project.settings.outputDir).names ++ [source.group]) ++
        [project.outputName plan.service] =
      ((Path.mk project.settings.scanDir).names ++ front ++ [last]) ++
        [project.settings.targetFile] := by
    rw [hfront] at h
    simpa using h
  obtain ⟨hdirectory, hname⟩ := List.append_inj' hlocation rfl
  obtain ⟨hgroups, -⟩ := List.append_inj' hdirectory rfl
  constructor
  · exact ⟨front, hgroups.symm⟩
  · exact ⟨plan.service.fileStem, isStem_of_plan hplan, (List.singleton_inj.1 hname).symm⟩

/-- With accepted settings that do not overlap, and a file extension without slashes, no plan puts a
stub at the place of a scanned file, whatever the disk has become by then.  So a run that keeps
going keeps each of these files. -/
theorem sources_kept_of_run (hc : project.settings.check = .ok ())
    (hs : '/' ∉ project.settings.fileExtension) (ho : ¬ project.settings.Overlap)
    (hscan : project.scan disk = .ok files) :
    (∀ source earlier plan, project.plan earlier source = .ok plan → ∀ file ∈ files,
      plan.output.resolve disk.workingDirectory ≠ file.path.resolve disk.workingDirectory) ∧
    ∃ report after, project.run .keepGoing disk = (.ok report, after) ∧ ∀ file ∈ files,
      after.read file.path = disk.read file.path ∧
      ∃ content, disk.find? (file.path.resolve disk.workingDirectory) = some (.file content) ∧
        after.find? (file.path.resolve disk.workingDirectory) = some (.file content) := by
  have hapart : ∀ source earlier plan, project.plan earlier source = .ok plan → ∀ file ∈ files,
      plan.output.resolve disk.workingDirectory ≠ file.path.resolve disk.workingDirectory := by
    intro source earlier plan hplan file hfile heq
    exact ho (overlap_of_resolve_eq hc hs hscan hfile hplan heq)
  obtain ⟨stubs, failed, after, hcompletes⟩ := exists_completes project.generate files disk
  have hrun : project.run .keepGoing disk = (.ok (project.report (stubs, failed)), after) := by
    simp [run, hscan, completes_iff.2 hcompletes, Except.map]
  refine ⟨hapart, _, after, hrun, fun file hfile => ?_⟩
  have hgrows := hcompletes.grows
  have hwritten : ¬ Written after stubs (file.path.resolve disk.workingDirectory) := by
    rintro ⟨stub, hm, hwalk⟩
    obtain ⟨source, -, earlier, plan, hplan, rfl⟩ := hcompletes.exists_plan hm
    have hlocation := Disk.location_of_walk hwalk
    rw [hgrows.workingDirectory] at hlocation
    exact hapart source earlier plan hplan file hfile hlocation.symm
  obtain ⟨names, content, -, hcontent⟩ := InterfaceFile.exists_resolve_of_mem_scan hscan hfile
  exact ⟨InterfaceFile.read_eq_of_grows hscan hfile hgrows hwritten, content, hcontent,
    (hgrows.file_eq hwritten).2 hcontent⟩

def apartSample : Project where
  root := ⟨['.']⟩
  settings := { Settings.standard with
    scanDir := "a".toList, targetFile := "generated.p.go".toList, outputDir := "o".toList }
  moduleName := ['m']

def overlapSample : Project where
  root := ⟨['.']⟩
  settings := { Settings.standard with
    scanDir := "a".toList, targetFile := "generated.p.go".toList, outputDir := "a".toList }
  moduleName := ['m']

/-- An interface file that has the name of its stub and lies where the stubs of its group may. -/
def overlapDisk : Disk :=
  .ofFiles [("go.mod", "module m"),
    ("a/b/generated.p.go", "package p\ntype Client interface\x7b\x7d")]

def overlapFile : InterfaceFile := ⟨['b'], ⟨"./a/b/generated.p.go".toList⟩⟩

/-- Stubs that go to another directory leave the interface file as it is. -/
theorem sources_kept_of_run_apart :
    ∃ report after, apartSample.run .keepGoing overlapDisk = (.ok report, after) ∧
      report.stubs.map GeneratedStub.output = [⟨"./o/b/generated.p.go".toList⟩] ∧
      after.read overlapFile.path = overlapDisk.read overlapFile.path := by
  have hcheck : apartSample.settings.check = .ok () := by decide +kernel
  have hapart : ¬ apartSample.settings.Overlap := fun ho => absurd ho.directory (by decide +kernel)
  have hscan : apartSample.scan overlapDisk = .ok [overlapFile] := by decide +kernel
  have hreport : (apartSample.run .keepGoing overlapDisk).1.map
      (fun report => report.stubs.map GeneratedStub.output) =
        .ok [⟨"./o/b/generated.p.go".toList⟩] := by decide +kernel
  obtain ⟨-, report, after, hrun, hall⟩ := sources_kept_of_run hcheck (by decide) hapart hscan
  rw [hrun] at hreport
  obtain ⟨hread, -⟩ := hall overlapFile List.mem_cons_self
  exact ⟨report, after, hrun, Except.ok.inj hreport, hread⟩

/-- Stubs that go to the scan directory may take the place of interface files. -/
theorem source_lost_overlap :
    Project.load overlapDisk overlapSample.root overlapSample.settings = .ok overlapSample ∧
      overlapSample.scan overlapDisk = .ok [overlapFile] ∧
      (overlapSample.run .keepGoing overlapDisk).1.map
        (fun report => report.stubs.map GeneratedStub.output) = .ok [overlapFile.path] ∧
      (overlapSample.run .keepGoing overlapDisk).2.read overlapFile.path ≠
        overlapDisk.read overlapFile.path := by
  refine ⟨by decide +kernel, by decide +kernel, by decide +kernel, by decide +kernel⟩

end Project

end GoStubs
