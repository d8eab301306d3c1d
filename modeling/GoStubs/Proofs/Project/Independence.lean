import GoStubs.Proofs.Interface.Service
import GoStubs.Proofs.Project.Outputs
import GoStubs.Proofs.Project.Place

/-!
# Interface files that do not affect each other

With the standard directories, stubs lie beside the interface files and never among them.  So each
step of a run reads what was there before the run, and what comes of it is what would come of it
alone: other files that fail, or whose stubs share its place, make no difference.
-/

namespace GoStubs

open Disk (Leads GrowsByStubs longestPath)
open InterfaceFile (pathBelow)

/-- Settings with the standard directories and the standard extension of stubs. -/
structure Settings.KeepsPlaces (settings : Settings) : Prop where
  scanDir : settings.scanDir = Settings.standard.scanDir
  outputDir : settings.outputDir = Settings.standard.outputDir
  fileExtension : settings.fileExtension = Settings.standard.fileExtension

namespace Project

variable {project : Project} {disk after : Disk} {file : InterfaceFile}
  {files : List InterfaceFile} {here : Location} {names : List Text}

/-- The path of the directory in which both standard directories lie. -/
def common (project : Project) : Path := project.root.join "pkg".toList

def outputFolder : Text := "client".toList

def stubName (service : Service) : Text :=
  "generated.".toList ++ service.fileStem ++ ".go".toList

theorem isName_stubName {service : Service} (h : service.fileStem.IsPlain) :
    Path.IsName (stubName service) := by
  have hstem : ∀ c ∈ service.fileStem, c ≠ '/' ∧ c ≠ '\x00' := by
    intro c hc
    constructor
    · rintro rfl
      exact absurd (h '/' hc) (by decide)
    · rintro rfl
      exact absurd (h '\x00' hc) (by decide)
  exact Path.isName_append_append (by decide) (by decide) hstem (by decide)

theorem join_standard (project : Project) {name : Text} (hn : Path.IsName name) :
    project.root.join ("pkg".toList ++ '/' :: name) = project.common.join name :=
  (Path.join_join project.root (by decide) hn).symm

theorem scanDir_eq (hk : project.settings.KeepsPlaces) :
    project.root.join project.settings.scanDir = project.common.join "model".toList := by
  rw [hk.scanDir, ← join_standard project (by decide)]
  exact congrArg project.root.join (by decide)

theorem outputPath_eq (hk : project.settings.KeepsPlaces) (file : InterfaceFile)
    (service : Service) :
    project.outputPath file service =
      ((project.common.join outputFolder).join file.group).join (stubName service) := by
  have hfolder : project.root.join project.settings.outputDir =
      project.common.join outputFolder := by
    rw [hk.outputDir, outputFolder, ← join_standard project (by decide)]
    exact congrArg project.root.join (by decide)
  have hname : "generated.".toList ++ service.fileStem ++ '.' :: project.settings.fileExtension =
      stubName service := by
    have hlast : '.' :: project.settings.fileExtension = ".go".toList := by
      rw [hk.fileExtension]
      decide
    exact congrArg ("generated.".toList ++ service.fileStem ++ ·) hlast
  rw [outputPath, hfolder, hname]

/-! ### Scanned files -/

/-- The path of a scanned file, by the names on the way to it. -/
structure IsSource (project : Project) (file : InterfaceFile) (names : List Text) : Prop where
  group : isFileName file.group
  isName : ∀ name ∈ names, Path.IsName name
  ne_nil : names ≠ []
  path : file.path = pathBelow project.common ("model".toList :: file.group :: names)

theorem exists_leads_of_mem_scan (hk : project.settings.KeepsPlaces)
    (hscan : project.scan disk = .ok files) (hf : file ∈ files) :
    ∃ here, Leads disk project.common here := by
  obtain ⟨spot, item, hw, -⟩ := InterfaceFile.exists_item_of_mem_scan hscan hf
  rw [scanDir_eq hk] at hw
  exact Disk.exists_leads_of_walk_join (Path.endsInName_join _ (by decide)) (by decide) hw

theorem exists_isSource_of_mem_scan (hk : project.settings.KeepsPlaces)
    (hscan : project.scan disk = .ok files) (hf : file ∈ files)
    (h : Leads disk project.common here) :
    ∃ names content, IsSource project file names ∧
      disk.find? (here ++ "model".toList :: file.group :: names) = some (.file content) := by
  obtain ⟨spot, item, hw, hm, hitem⟩ := InterfaceFile.exists_item_of_mem_scan hscan hf
  obtain ⟨group, name, names, content, rfl, -, rfl⟩ := InterfaceFile.ofItem?_eq_some hitem
  obtain ⟨hentry, -⟩ := Disk.find?_of_mem_below hm
  rw [scanDir_eq hk] at hw
  have hshort := (Disk.walk_eq_ok_iff.1 hw).1.2.2
  have hmodel := h.walk_pathBelow ["model".toList] (by decide) hshort false
  rw [Disk.walkFrom_name (by decide)] at hmodel
  -- The walk to the scan directory ends where its name is looked up.
  obtain rfl : spot = ⟨here ++ ["model".toList], false⟩ :=
    Except.ok.inj (hw.symm.trans hmodel)
  rw [← List.append_cons] at hentry
  have hall := Disk.isFileName_of_find? hentry
  have hname {other : Text} (ho : other ∈ group :: name :: names) : isFileName other :=
    List.all_eq_true.1 hall other (by simp [ho])
  refine ⟨name :: names, content, ⟨hname List.mem_cons_self, ?_, by simp, ?_⟩, hentry⟩
  · exact fun other ho => Path.isName_of_isFileName (hname (List.mem_cons_of_mem _ ho))
  · rw [scanDir_eq hk]
    rfl

theorem IsSource.isName_cons (h : IsSource project file names) :
    ∀ name ∈ "model".toList :: file.group :: names, Path.IsName name := by
  refine List.forall_mem_cons.2 ⟨by decide, List.forall_mem_cons.2 ⟨?_, h.isName⟩⟩
  exact Path.isName_of_isFileName h.group

/-- The path of the group of stubs is no longer than the one of the interface file. -/
theorem IsSource.utf8Size_group (h : IsSource project file names) :
    Text.utf8Size ((project.common.join outputFolder).join file.group).text ≤
      Text.utf8Size file.path.text := by
  have hfolder : Path.IsName outputFolder := by decide
  have hcommon : project.common.EndsInName := Path.endsInName_join project.root (by decide)
  have hgroup := (Path.endsInName_join project.common hfolder).text_join
    (Path.isName_of_isFileName h.group)
  have hsize : Text.utf8Size outputFolder = Text.utf8Size "model".toList + 1 := by decide
  obtain ⟨name, rest, hnames⟩ := List.exists_cons_of_ne_nil h.ne_nil
  have hpath : file.path.text = project.common.text ++ ('/' :: "model".toList ++
      ('/' :: file.group ++ ('/' :: name ++ rest.flatMap ('/' :: ·)))) := by
    rw [h.path, hcommon.text_pathBelow h.isName_cons, hnames]
    rfl
  rw [hgroup, hcommon.text_join hfolder, hpath]
  simp only [Text.utf8Size_append, Text.utf8Size_cons, hsize]
  have hslash : '/'.utf8Size = 1 := by decide
  omega

theorem IsSource.read_eq (h : IsSource project file names) (hl : Leads disk project.common here)
    {content : Text.Bytes}
    (hf : disk.find? (here ++ "model".toList :: file.group :: names) = some (.file content))
    (hg : GrowsByStubs (here ++ [outputFolder]) disk after) :
    after.read file.path = disk.read file.path := by
  by_cases hs : Text.utf8Size file.path.text ≤ longestPath
  · have hplace : ¬ Disk.IsStubPlace (here ++ [outputFolder])
        (here ++ "model".toList :: file.group :: names) := by
      rintro ⟨group, name, hp⟩
      rw [List.append_assoc, List.append_assoc, List.append_cancel_left_eq] at hp
      exact absurd (List.cons.inj hp).1 (by decide)
    have hafter := (hg.grows.file_eq hplace).2 hf
    have hw {other : Disk} (ho : Leads other project.common here)
        (hfile : other.find? (here ++ "model".toList :: file.group :: names) =
          some (.file content)) : other.read file.path = .ok content := by
      rw [h.path] at hs ⊢
      exact Disk.read_eq_ok_iff.2 ⟨_, Disk.walk_pathBelow ho.walk hfile (by simp) hs, hfile⟩
    rw [hw hl hf, hw (hl.of_grows hg.grows) hafter]
  · have hlong : longestPath < Text.utf8Size file.path.text := Nat.lt_of_not_le hs
    have hw {other : Disk} (ho : Leads other project.common here) :
        other.walk file.path = .error .nameTooLong := by
      rw [h.path] at hlong ⊢
      exact ho.walk_pathBelow_of_long _ h.isName_cons hlong false
    rw [Disk.read, Disk.read, hw hl, hw (hl.of_grows hg.grows)]
    rfl

/-! ### Steps -/

theorem IsSource.written (h : IsSource project file names) (hk : project.settings.KeepsPlaces)
    (hl : Leads disk project.common here) {plan : Plan} (hp : project.plan disk file = .ok plan) :
    plan.Written project.settings ((project.common.join outputFolder).join file.group)
      (here ++ [outputFolder]) file.group (stubName plan.service) disk
      (plan.write project.settings disk) := by
  obtain ⟨-, content, found, types, hread, hfound, -, rfl⟩ := plan_eq_ok_iff.1 hp
  have hservice := Interface.findService_of_ofContent hfound
  have hname := isName_stubName (Interface.isStem_fileStem hservice).isPlain
  have hshort : Text.utf8Size file.path.text ≤ longestPath := by
    rw [Disk.readText, Except.bind_eq_ok_iff] at hread
    obtain ⟨bytes, hbytes, -⟩ := hread
    obtain ⟨location, hwalk, -⟩ := Disk.read_eq_ok_iff.1 hbytes
    exact (Disk.walk_eq_ok_iff.1 hwalk).1.2.2
  exact Plan.written _ _ hl (by decide) h.group hname (Nat.le_trans h.utf8Size_group hshort)
    (outputPath_eq hk file found.service)

/-- A step comes to the same after other stubs have been written, and adds but a stub to them. -/
theorem IsSource.generate_eq (h : IsSource project file names) (hk : project.settings.KeepsPlaces)
    (hl : Leads disk project.common here) {content : Text.Bytes}
    (hf : disk.find? (here ++ "model".toList :: file.group :: names) = some (.file content))
    (hg : GrowsByStubs (here ++ [outputFolder]) disk after) :
    (project.generate after file).1 = (project.generate disk file).1 ∧
      GrowsByStubs (here ++ [outputFolder]) after (project.generate after file).2 := by
  have hplan : project.plan after file = project.plan disk file := plan_congr (h.read_eq hl hf hg)
  cases hp : project.plan disk file with
  | error fault =>
      rw [hp] at hplan
      simp [generate, hp, hplan, GrowsByStubs.refl]
  | ok plan =>
      rw [hp] at hplan
      have hbefore := h.written hk hl hp
      have hafter := h.written hk (hl.of_grows hg.grows) hplan
      have hresult := hbefore.fst_eq hafter hg
      have hgrowth := hafter.growsByStubs
      rcases hw : plan.write project.settings disk with ⟨result, _⟩
      rcases hv : plan.write project.settings after with ⟨other, last⟩
      rw [hw, hv] at hresult
      rw [hv] at hgrowth
      cases hresult
      cases result with
      | error fault => simpa [generate, hp, hplan, hw, hv] using hgrowth
      | ok made => simpa [generate, hp, hplan, hw, hv] using hgrowth

/-! ### Runs -/

section Steps

variable {α : Type} {step : Disk → InterfaceFile → Except Fault α × Disk} {stubs : List α}
  {failed : List FailedFile} {stands : Disk → Prop} {result : InterfaceFile → Except Fault α}

/-- The entry of a report for a result that is a fault. -/
def failure? (file : InterfaceFile) : Except Fault α → Option FailedFile
  | .ok _ => none
  | .error fault => some ⟨file.path, fault.line⟩

/-- What each step preserves, a whole run does. -/
theorem Completes.preserves (h : Completes step files disk stubs failed after)
    (hstep : ∀ file ∈ files, ∀ disk, stands disk → stands (step disk file).2) (hd : stands disk) :
    stands after := by
  induction h with
  | done disk => exact hd
  | stub head _ ih | failure head _ ih =>
      obtain ⟨hfile, hrest⟩ := List.forall_mem_cons.1 hstep
      have hstands := hfile _ hd
      rw [head] at hstands
      exact ih hrest hstands

/-- If an invariant settles the result of each step, it settles the whole report. -/
theorem Completes.eq_filterMap (h : Completes step files disk stubs failed after)
    (hstep : ∀ file ∈ files, ∀ disk, stands disk →
      (step disk file).1 = result file ∧ stands (step disk file).2) (hd : stands disk) :
    stubs = files.filterMap (fun file => (result file).toOption) ∧
      failed = files.filterMap fun file => failure? file (result file) := by
  induction h with
  | done disk => exact ⟨rfl, rfl⟩
  | @stub file rest disk middle after stub stubs failed head tail ih =>
      obtain ⟨hfile, hrest⟩ := List.forall_mem_cons.1 hstep
      obtain ⟨hresult, hstands⟩ := hfile disk hd
      rw [head] at hresult hstands
      obtain ⟨rfl, rfl⟩ := ih hrest hstands
      simp [← hresult, failure?, Except.toOption]
  | @failure file rest disk middle after fault stubs failed head tail ih =>
      obtain ⟨hfile, hrest⟩ := List.forall_mem_cons.1 hstep
      obtain ⟨hresult, hstands⟩ := hfile disk hd
      rw [head] at hresult hstands
      obtain ⟨rfl, rfl⟩ := ih hrest hstands
      simp [← hresult, failure?, Except.toOption]

end Steps

/-- What a report of a run says if each interface file is taken alone. -/
def reportAlone (project : Project) (disk : Disk) (files : List InterfaceFile) :
    Report GeneratedStub where
  moduleName := project.moduleName
  stubs := files.filterMap fun file => (project.generate disk file).1.toOption
  failed := files.filterMap fun file => failure? file (project.generate disk file).1

theorem Completes.eq_reportAlone {stubs : List GeneratedStub} {failed : List FailedFile}
    (hk : project.settings.KeepsPlaces) (hscan : project.scan disk = .ok files)
    (h : Completes project.generate files disk stubs failed after) :
    project.report (stubs, failed) = project.reportAlone disk files := by
  rcases List.eq_nil_or_concat files with rfl | ⟨_, last, hlast⟩
  · cases h
    rfl
  have hmem : last ∈ files := by simp [hlast]
  obtain ⟨here, hl⟩ := exists_leads_of_mem_scan hk hscan hmem
  -- The invariant of the run: since its start, the disk has grown by stubs only.
  have hstep : ∀ file ∈ files, ∀ other, GrowsByStubs (here ++ [outputFolder]) disk other →
      (project.generate other file).1 = (project.generate disk file).1 ∧
        GrowsByStubs (here ++ [outputFolder]) disk (project.generate other file).2 := by
    intro file hm other hg
    obtain ⟨names, content, hsource, hf⟩ := exists_isSource_of_mem_scan hk hscan hm hl
    obtain ⟨hresult, hgrowth⟩ := hsource.generate_eq hk hl hf hg
    exact ⟨hresult, hg.trans hgrowth⟩
  obtain ⟨rfl, rfl⟩ := h.eq_filterMap hstep (.refl disk)
  rfl

/-- With the standard directories, a run that keeps going reports for each scanned file what
generating its stub alone comes to on the disk before the run. -/
theorem run_keepGoing_eq (project : Project) (disk : Disk) (hk : project.settings.KeepsPlaces) :
    (project.run .keepGoing disk).1 = (project.scan disk).map (project.reportAlone disk) ∧
    ∀ file stub after, project.generate disk file = (.ok stub, after) →
      stub.source = file.path := by
  constructor
  · cases hscan : project.scan disk with
    | error fault => simp [run, hscan, Except.map]
    | ok files =>
        obtain ⟨stubs, failed, after, hc⟩ := exists_completes project.generate files disk
        have hreport := hc.eq_reportAlone hk hscan
        simp [run, hscan, completes_iff.2 hc, Except.map, hreport]
  · intro file stub after h
    obtain ⟨rendered, -, hr, rfl, -⟩ := exists_location_of_generate h
    exact (source_of_render hr).1

def crowdedSample : Project := ⟨⟨['.']⟩, .standard, ['m']⟩

/-- Two interface files share an output, one has no interface, and a file is in the way of the group
of the last. -/
def crowdedDisk : Disk :=
  .ofFiles [("go.mod", "module m"),
    ("pkg/model/a/x/client.go", "package p\ntype Client interface\x7b\x7d"),
    ("pkg/model/a/y/client.go", "package P\ntype Client interface\x7b\x7d"),
    ("pkg/model/b/x/client.go", "package p"),
    ("pkg/model/c/x/client.go", "package p\ntype Client interface\x7b\x7d"),
    ("pkg/client/c", "")]

theorem run_keepGoing_eq_sample :
    ∃ files, crowdedSample.scan crowdedDisk = .ok files ∧
      (crowdedSample.run .keepGoing crowdedDisk).1 =
        .ok (crowdedSample.reportAlone crowdedDisk files) ∧
      (crowdedSample.reportAlone crowdedDisk files).stubs.map GeneratedStub.source =
        [⟨"./pkg/model/a/x/client.go".toList⟩, ⟨"./pkg/model/a/y/client.go".toList⟩] ∧
      (crowdedSample.reportAlone crowdedDisk files).failed.map FailedFile.source =
        [⟨"./pkg/model/b/x/client.go".toList⟩, ⟨"./pkg/model/c/x/client.go".toList⟩] := by
  have hrun := (run_keepGoing_eq crowdedSample crowdedDisk ⟨rfl, rfl, rfl⟩).1
  have hsources : (crowdedSample.scan crowdedDisk).map (fun files =>
      ((crowdedSample.reportAlone crowdedDisk files).stubs.map GeneratedStub.source,
        (crowdedSample.reportAlone crowdedDisk files).failed.map FailedFile.source)) =
      .ok ([⟨"./pkg/model/a/x/client.go".toList⟩, ⟨"./pkg/model/a/y/client.go".toList⟩],
        [⟨"./pkg/model/b/x/client.go".toList⟩, ⟨"./pkg/model/c/x/client.go".toList⟩]) := by
    decide +kernel
  rcases hscan : crowdedSample.scan crowdedDisk with _ | files
  · simp [hscan, Except.map] at hsources
  rw [hscan] at hrun hsources
  obtain ⟨hstubs, hfailed⟩ := Prod.mk.inj (Except.ok.inj hsources)
  exact ⟨files, rfl, hrun, hstubs, hfailed⟩

end Project

end GoStubs
