import GoStubs.Proofs.Interface.Service
import GoStubs.Proofs.Disk.Names
import GoStubs.Proofs.Path.Resolution
import GoStubs.Proofs.Project.Loading
import GoStubs.Proofs.Project.Outputs

/-!
# Places inside the repository

With accepted settings the scan directory lies inside the root, and so does a manifest that declares
a module.  A stub lies directly in the directory of its group, below the output directory, as long
as the file extension is a part of one name.  Nothing checks that it is: with slashes and two dots
in the extension, a stub is written outside the repository.
-/

namespace GoStubs

theorem Path.isName_of_isWord {name : Text} (h : Go.isWord name) : Path.IsName name := by
  have hchar {c : Char} (hc : Text.isWordChar c = false) : c ∉ name := by
    intro hm
    simp [Go.isWordChar_of_mem_isWord h hm] at hc
  have hdot : '.' ∉ name := hchar (by decide +kernel)
  refine ⟨?_, ?_, hchar (by decide +kernel), hchar (by decide +kernel)⟩
  · rw [Path.isIdle, Bool.or_eq_false_iff, beq_eq_false_iff_ne, beq_eq_false_iff_ne]
    constructor
    · rintro rfl
      cases h
    · rintro rfl
      exact hdot List.mem_cons_self
  · rintro rfl
    exact hdot List.mem_cons_self

namespace Disk

/-- A walk that ends with a step upwards ends at a directory. -/
theorem directory_of_walkFrom_up {disk : Disk} {making : Bool} {here : Location}
    {first : List Text} {spot : Spot} (hd : disk.find? here = some .directory)
    (hw : disk.walkFrom making here (first ++ [['.', '.']]) = .ok spot) :
    disk.find? spot.location = some .directory := by
  induction first generalizing here with
  | nil =>
      cases hw
      exact find?_dropLast hd
  | cons segment first ih =>
      rw [List.cons_append, walkFrom_cons_eq_ok_iff] at hw
      rcases hw with ⟨-, hw⟩ | ⟨-, hw⟩ | ⟨-, ⟨hf, hw⟩ | ⟨-, hempty, -⟩⟩
      · exact ih hd hw
      · exact ih (find?_dropLast hd) hw
      · exact ih hf hw
      · simp at hempty

end Disk

namespace Project

variable {project : Project} {disk : Disk} {file : InterfaceFile} {plan : Plan}

/-- The name of the file that a stub goes to. -/
def outputName (project : Project) (service : Service) : Text :=
  "generated.".toList ++ service.fileStem ++ '.' :: project.settings.fileExtension

theorem length_outputName (project : Project) (service : Service) :
    2 < (project.outputName service).length := by
  have hfirst : 2 < "generated.".toList.length := by decide
  unfold outputName
  generalize "generated.".toList = first at hfirst ⊢
  simp only [List.length_append]
  omega

theorem not_mem_outputName {service : Service} (hm : service.fileStem.IsPlain)
    (hs : '/' ∉ project.settings.fileExtension) : '/' ∉ project.outputName service := by
  have hfirst : '/' ∉ "generated.".toList := by decide
  have hmiddle : '/' ∉ service.fileStem := fun hc => absurd (hm '/' hc) (by decide)
  unfold outputName
  generalize "generated.".toList = first at hfirst ⊢
  simp [hfirst, hmiddle, hs]

theorem outputPath_eq_join (project : Project) (file : InterfaceFile) (service : Service) :
    project.outputPath file service =
      ((project.root.join project.settings.outputDir).join file.group).join
        (project.outputName service) := rfl

/-- Where a project reads and writes, as seen from a working directory. -/
structure StaysInside (project : Project) (workingDirectory : Location) : Prop where
  scan : project.root.resolve workingDirectory <+:
    (project.root.join project.settings.scanDir).resolve workingDirectory
  manifest : project.settings.manifest ≠ ['.', '.'] → project.root.resolve workingDirectory <+:
    (project.root.join project.settings.manifest).resolve workingDirectory
  loaded : ∀ disk, Project.load disk project.root project.settings = .ok project →
    project.root.resolve workingDirectory <+:
      (project.root.join project.settings.manifest).resolve workingDirectory
  output : '/' ∉ project.settings.fileExtension → ∀ disk file plan,
    project.plan disk file = .ok plan →
      project.root.resolve workingDirectory <+:
        (project.root.join project.settings.outputDir).resolve workingDirectory ∧
      plan.output.resolve workingDirectory =
        (project.root.join project.settings.outputDir).resolve workingDirectory ++
          [file.group, project.outputName plan.service]

theorem isStem_of_plan (h : project.plan disk file = .ok plan) :
    plan.service.fileStem.IsStem := by
  obtain ⟨-, content, found, types, -, hfound, -, rfl⟩ := plan_eq_ok_iff.1 h
  exact Interface.isStem_fileStem (Interface.findService_of_ofContent hfound)

theorem resolve_output (hs : '/' ∉ project.settings.fileExtension)
    (hp : project.plan disk file = .ok plan) (workingDirectory : Location) :
    plan.output.resolve workingDirectory =
      (project.root.join project.settings.outputDir).resolve workingDirectory ++
        [file.group, project.outputName plan.service] := by
  have hslash := not_mem_outputName (isStem_of_plan hp).isPlain hs
  obtain ⟨hpackage, content, found, types, -, -, -, rfl⟩ := plan_eq_ok_iff.1 hp
  have hgroup := Path.isName_of_isWord (Go.isWord_of_isPackageName hpackage)
  obtain ⟨hidle, hdots⟩ := Path.not_dots_of_length (project.length_outputName found.service)
  change (project.outputPath file found.service).resolve workingDirectory = _ ++
    [file.group, project.outputName found.service]
  rw [outputPath_eq_join, Path.resolve_join_name _ hslash hidle hdots,
    Path.resolve_join_name _ hgroup.2.2.1 hgroup.1 hgroup.2.1, List.append_assoc]
  rfl

/-- Accepted settings keep the scan directory and any manifest that declares a module inside the
root.  A stub lies in the directory of its group if the file extension has no slash. -/
theorem staysInside_of_check (h : project.settings.check = .ok ()) (workingDirectory : Location) :
    project.StaysInside workingDirectory := by
  have haccepted := Settings.check_eq_ok_iff.1 h
  have hmanifest := haccepted.manifest.1
  have hname (hup : project.settings.manifest ≠ ['.', '.']) :
      project.root.resolve workingDirectory <+:
        (project.root.join project.settings.manifest).resolve workingDirectory := by
    rw [Path.resolve_join_segment _ hmanifest]
    by_cases hi : Path.isIdle project.settings.manifest
    · simp [Path.follow_of_isIdle hi]
    · rw [Bool.not_eq_true] at hi
      rw [Path.follow_name hi hup]
      exact List.prefix_append _ _
  refine ⟨?_, hname, ?_, ?_⟩
  · rw [Path.resolve_join_of_staysInside _ haccepted.scanDir]
    exact List.prefix_append _ _
  · intro disk hload
    apply hname
    intro hup
    -- The root and two dots lead to a directory, which cannot be read.
    obtain ⟨-, name, hmodule, -⟩ := load_eq_ok_iff.1 hload
    obtain ⟨content, hread, -⟩ := Manifest.moduleName_eq_ok_iff.1 hmodule
    obtain ⟨location, hwalk, hfile⟩ := Disk.read_eq_ok_iff.1 hread
    obtain ⟨-, hwalk⟩ := Disk.walk_eq_ok_iff.1 hwalk
    rw [hup, Path.segments_join _ (by decide)] at hwalk
    have hdirectory := Disk.directory_of_walkFrom_up (disk.find?_start _) hwalk
    rw [hfile] at hdirectory
    cases hdirectory
  · intro hslash disk file plan hplan
    refine ⟨?_, resolve_output hslash hplan workingDirectory⟩
    rw [Path.resolve_join_of_staysInside _ haccepted.outputDir]
    exact List.prefix_append _ _

def nestedSample : Project where
  root := ⟨"r/../r/".toList⟩
  settings := { Settings.standard with
    scanDir := "./m//n".toList, outputDir := "o/./p".toList, manifest := "mod".toList }
  moduleName := "m".toList

def nestedDisk : Disk :=
  .ofFiles [("r/mod", "module m"),
    ("r/m/n/b/x/client.go", "package p\ntype Client interface\x7b\x7d")]

def nestedFile : InterfaceFile := ⟨['b'], ⟨"r/../r/m/n/b/x/client.go".toList⟩⟩

/-- Dots and doubled slashes in the settings make no difference to where the stub goes. -/
theorem staysInside_of_check_nested :
    ["h".toList, "r".toList] <+:
        (nestedSample.root.join nestedSample.settings.scanDir).resolve ["h".toList] ∧
      ["h".toList, "r".toList] <+:
        (nestedSample.root.join nestedSample.settings.manifest).resolve ["h".toList] ∧
      ∃ plan, nestedSample.plan nestedDisk nestedFile = .ok plan ∧
        plan.output.resolve ["h".toList] =
          ["h", "r", "o", "p", "b", "generated.p.go"].map String.toList := by
  have hcheck : nestedSample.settings.check = .ok () := by decide +kernel
  have hload : Project.load nestedDisk nestedSample.root nestedSample.settings =
      .ok nestedSample := by decide +kernel
  have hinside := staysInside_of_check hcheck ["h".toList]
  have hname : (nestedSample.plan nestedDisk nestedFile).map
      (fun plan => nestedSample.outputName plan.service) = .ok "generated.p.go".toList := by
    decide +kernel
  rcases hplan : nestedSample.plan nestedDisk nestedFile with _ | plan
  · rw [hplan] at hname
    cases hname
  rw [hplan] at hname
  have hlast : nestedSample.outputName plan.service = "generated.p.go".toList := Except.ok.inj hname
  obtain ⟨-, houtput⟩ := hinside.output (by decide) _ _ _ hplan
  refine ⟨hinside.scan, hinside.loaded nestedDisk hload, plan, rfl, ?_⟩
  rw [houtput, hlast]
  decide +kernel

def escapingSample : Project where
  root := ⟨['r']⟩
  settings := { Settings.standard with fileExtension := "go/../../../../../e".toList }
  moduleName := ['m']

def escapingDisk : Disk :=
  .ofFiles [("r/go.mod", "module m"),
    ("r/pkg/model/b/x/client.go", "package p\ntype Client interface\x7b\x7d")]

def escapingFile : InterfaceFile := ⟨['b'], ⟨"r/pkg/model/b/x/client.go".toList⟩⟩

/-- With slashes in the file extension, accepted settings lead a run out of the repository. -/
theorem exists_output_outside :
    ∃ plan, Project.load escapingDisk escapingSample.root escapingSample.settings =
        .ok escapingSample ∧
      escapingSample.scan escapingDisk = .ok [escapingFile] ∧
      escapingSample.plan escapingDisk escapingFile = .ok plan ∧
      ¬ escapingSample.root.resolve [] <+: plan.output.resolve [] ∧
      escapingDisk.read ⟨['e']⟩ = .error .notFound ∧
      ((escapingSample.run .keepGoing escapingDisk).2.read ⟨['e']⟩).toBool := by
  have hplaces : (escapingSample.plan escapingDisk escapingFile).map
      (fun plan => plan.output.resolve []) = .ok [['e']] := by decide +kernel
  rcases hplan : escapingSample.plan escapingDisk escapingFile with _ | plan
  · rw [hplan] at hplaces
    cases hplaces
  rw [hplan] at hplaces
  have hplace : plan.output.resolve [] = [['e']] := Except.ok.inj hplaces
  refine ⟨plan, by decide +kernel, by decide +kernel, rfl, ?_, by decide +kernel,
    by decide +kernel⟩
  rw [hplace]
  decide

end Project

end GoStubs
