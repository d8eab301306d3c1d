import Mathlib.Data.List.Dedup
import GoStubs.Proofs.Project.Independence
import GoStubs.Proofs.Project.Sources
import GoStubs.Proofs.Stub.Names

/-!
# The packages that a run writes

The outputs of a run in one directory are files of one package.  Each of them
declares its own struct, because the name of the struct settles the name of the
file.  The constructor has the same name in all of them, so a directory with two
outputs has a package that does not compile.

That these are all names that an output declares takes imports that are string
literals, and response types that end what they start.  Other texts could bring
declarations of their own.
-/

namespace GoStubs

open Disk (GrowsByStubs)
open Stub (stubText constructor)

/-- Of lists with a common member, only one at most can be part of a list without repetition. -/
theorem nodup_flatMap_common_iff {α β : Type} {list : List α} {f : α → β} {g : α → List β} {c : β}
    (h : (list.map f).Nodup)
    (hg : ∀ a ∈ list, g a = [f a, c] ∨ g a = [c] ∧ c ≠ f a) :
    (list.flatMap g).Nodup ↔ list.length ≤ 1 ∧ c ∉ list.map f := by
  have hmem : ∀ a ∈ list, c ∈ g a := fun a ha => by
    rcases hg a ha with he | ⟨he, -⟩ <;> simp [he]
  rcases list with _ | ⟨a, _ | ⟨b, list⟩⟩
  · simp
  · rcases hg a List.mem_cons_self with he | ⟨he, hne⟩
    · simp [he, eq_comm]
    · simp [he, hne]
  · refine iff_of_false (fun hn => ?_) (by simp)
    rw [List.flatMap_cons, List.flatMap_cons] at hn
    have hapart := List.disjoint_of_nodup_append hn
    exact hapart (hmem a (by simp)) (List.mem_append_left _ (hmem b (by simp)))

namespace Service

/-- Keywords start with small letters. -/
theorem head?_keywords : ∀ keyword ∈ Go.keywords, keyword.head?.all fun c => !isCapital c := by
  decide +kernel

/-- A capitalised name is that of a declaration, unless it is the blank identifier. -/
theorem isDeclarable_eq {c : Char} {rest : Text} (hc : isCapital c)
    (hp : Text.IsPlain (c :: rest)) : Go.isDeclarable (c :: rest) = (c :: rest != ['_']) := by
  obtain ⟨hfirst, hrest⟩ := List.forall_mem_cons.1 hp
  have hletter : (Text.isAlphabetic c || c == '_') = true := by
    rw [← Interface.isPlainLetter_eq hfirst]
    exact isPlainLetter_of_isCapital hc
  have hword : Go.isWord (c :: rest) = true := by
    rw [Go.isWord, Bool.and_eq_true, List.all_eq_true]
    exact ⟨hletter, fun d hd => Text.isWordChar_of_isPlainWordChar (hrest d hd)⟩
  have hkeyword : Go.keywords.contains (c :: rest) = false := by
    rw [← Bool.not_eq_true, List.contains_iff_mem]
    intro hm
    simpa [hc] using head?_keywords _ hm
  have hinit : (c :: rest != "init".toList) = true := by
    rw [bne_iff_ne]
    rintro ⟨⟩
    cases hc
  rw [Go.isDeclarable, Go.isPackageName, hword, hkeyword, hinit]
  simp

end Service

/-- What a stub takes from its interface file does nothing to the text around it. -/
structure Plan.IsWhole (plan : Plan) : Prop where
  imports : ∀ text ∈ plan.imports, Go.IsString text
  responseTypes : ∀ method ∈ plan.methods, Go.IsWhole method.responseType

namespace Project

variable {project : Project} {disk after earlier : Disk} {files : List InterfaceFile}
  {file : InterfaceFile} {plan : Plan} {stub : GeneratedStub} {stubs : List GeneratedStub}
  {failed : List FailedFile} {first : List InterfaceFile}

/-- The directory of the stubs of a package. -/
def packageDirectory (project : Project) (package : Text) : Path :=
  (project.root.join project.settings.outputDir).join package

/-- The output paths of a report in a directory, each once. -/
def outputsIn (stubs : List GeneratedStub) (directory : Path) : List Path :=
  ((stubs.map GeneratedStub.output).filter fun output => output.parent? == some directory).dedup

/-! ### Plans -/

theorem isName_of_plan (h : project.plan disk file = .ok plan) : Path.IsName plan.package := by
  obtain ⟨hpackage, content, found, types, -, -, -, rfl⟩ := plan_eq_ok_iff.1 h
  exact Path.isName_of_isWord (Go.isWord_of_isPackageName hpackage)

/-- The package and the name of the service settle the output path. -/
theorem output_of_plan (h : project.plan disk file = .ok plan) :
    plan.output =
      (project.packageDirectory plan.package).join (project.outputName plan.service) := by
  obtain ⟨-, content, found, types, -, -, -, rfl⟩ := plan_eq_ok_iff.1 h
  rfl

theorem parent?_output (hk : project.settings.KeepsPlaces)
    (h : project.plan disk file = .ok plan) :
    plan.output.parent? = some (project.packageDirectory plan.package) := by
  have hlast : '.' :: project.settings.fileExtension = ".go".toList := by
    rw [hk.fileExtension]
    decide
  have hname : project.outputName plan.service = stubName plan.service :=
    congrArg ("generated.".toList ++ plan.service.fileStem ++ ·) hlast
  rw [output_of_plan h, hname]
  exact (Path.endsInName_join _ (isName_of_plan h)).parent?_join
    (isName_stubName (isStem_of_plan h).isPlain)

theorem eq_of_packageDirectory_eq {first last : Text} (hf : Path.IsName first)
    (hl : Path.IsName last)
    (h : project.packageDirectory first = project.packageDirectory last) : first = last := by
  have hresolve := congrArg (Path.resolve · []) h
  simp only [packageDirectory] at hresolve
  rw [Path.resolve_join_name _ hf.2.2.1 hf.1 hf.2.1,
    Path.resolve_join_name _ hl.2.2.1 hl.1 hl.2.1] at hresolve
  exact (List.cons.inj (List.append_cancel_left hresolve)).1

/-- Two outputs that lead to one place are the same path. -/
theorem output_eq_of_resolve_eq {other : Disk} {second : InterfaceFile} {next : Plan}
    (hs : '/' ∉ project.settings.fileExtension) (hp : project.plan disk file = .ok plan)
    (hn : project.plan other second = .ok next) {workingDirectory : Location}
    (h : plan.output.resolve workingDirectory = next.output.resolve workingDirectory) :
    plan.output = next.output := by
  rw [resolve_output hs hp, resolve_output hs hn] at h
  have hlast := List.append_cancel_left h
  simp only [List.cons.injEq, and_true] at hlast
  obtain ⟨-, content, found, types, -, -, -, rfl⟩ := plan_eq_ok_iff.1 hp
  obtain ⟨-, content, found, types, -, -, -, rfl⟩ := plan_eq_ok_iff.1 hn
  rw [outputPath_eq_join, outputPath_eq_join, hlast.1, hlast.2]

/-! ### Runs -/

theorem content_of_plan (plan : Plan) (settings : Settings) :
    plan.content settings = .ok
      (stubText settings plan.package plan.service.name plan.imports plan.methods) := by
  rw [Plan.content, Plan.base, Plan.wrappers, Stub.base_eq, Stub.wrappers_eq]
  rfl

/-- With the standard directories, a plan comes to the same at any time of a run. -/
theorem Completes.plan_eq (hk : project.settings.KeepsPlaces)
    (hscan : project.scan disk = .ok files) (hf : file ∈ files)
    (h : Completes project.generate first disk stubs failed earlier) (hsub : first ⊆ files) :
    project.plan earlier file = project.plan disk file := by
  obtain ⟨here, hl⟩ := exists_leads_of_mem_scan hk hscan hf
  have hgrown : GrowsByStubs (here ++ [outputFolder]) disk earlier := by
    refine h.preserves (fun source hs other hg => ?_) (.refl disk)
    obtain ⟨names, content, hsource, hcontent⟩ := exists_isSource_of_mem_scan hk hscan (hsub hs) hl
    exact hg.trans (hsource.generate_eq hk hl hcontent hg).2
  obtain ⟨names, content, hsource, hcontent⟩ := exists_isSource_of_mem_scan hk hscan hf hl
  exact plan_congr (hsource.read_eq hl hcontent hgrown)

/-- After a complete run, an output holds the text of the last stub with this output. -/
theorem Completes.exists_last (hk : project.settings.KeepsPlaces)
    (hscan : project.scan disk = .ok files)
    (h : Completes project.generate files disk stubs failed after) (hm : stub ∈ stubs) :
    ∃ last ∈ stubs, last.output = stub.output ∧ ∃ file ∈ files, ∃ plan,
      project.plan disk file = .ok plan ∧ last = plan.summary ∧
      after.read stub.output = .ok (Text.encode
        (stubText project.settings plan.package plan.service.name plan.imports plan.methods)) := by
  have hs : '/' ∉ project.settings.fileExtension := by
    rw [hk.fileExtension]
    decide
  obtain ⟨before, last, later, rfl, hlast, hlater⟩ :=
    exists_last_of_mem (p := fun other : GeneratedStub => other.output = stub.output) hm rfl
  obtain ⟨first, file, rest, earlier, middle, missed, more, rfl, hfirst, hstep, hrest⟩ := h.split
  obtain ⟨rendered, location, hr, rfl, hwalk, hfile, -⟩ := exists_location_of_generate hstep
  simp only [render, Except.bind_eq_ok_iff, Except.pure_eq_ok_iff, content_of_plan,
    Except.ok.injEq] at hr
  obtain ⟨plan, hplan, content, rfl, rfl⟩ := hr
  have hmem : file ∈ first ++ file :: rest := by simp
  have hsub : first ⊆ first ++ file :: rest := List.subset_append_left _ _
  rw [hfirst.plan_eq hk hscan hmem hsub] at hplan
  refine ⟨_, by simp, hlast, file, hmem, plan, hplan, rfl, ?_⟩
  have hend : after.walk plan.output = .ok ⟨location, false⟩ :=
    hrest.grows.walk hwalk (.inr (hrest.grows.file location _ hfile))
  -- The stubs behind go to other places, since they have other output paths.
  have hkept : ¬ Written after later location := by
    rintro ⟨other, ho, hother⟩
    obtain ⟨source, -, disk, next, hnext, rfl⟩ := hrest.exists_plan ho
    refine hlater _ ho (.trans (Eq.symm ?_) hlast)
    apply output_eq_of_resolve_eq hs hplan hnext
    exact (Disk.location_of_walk hend).symm.trans (Disk.location_of_walk hother)
  rw [← hlast]
  exact Disk.read_eq_ok_iff.2 ⟨location, hend, (hrest.grows.file_eq hkept).2 hfile⟩

theorem packageName?_of_plan (hs : project.settings = .standard)
    (h : project.plan disk file = .ok plan) :
    Go.packageName? (stubText project.settings plan.package plan.service.name plan.imports
      plan.methods) = some plan.package := by
  have hgenerator : '\n' ∉ project.settings.generatorName := by
    rw [hs]
    decide
  obtain ⟨hpackage, content, found, types, -, -, -, rfl⟩ := plan_eq_ok_iff.1 h
  exact Stub.packageName?_stubText hgenerator hpackage _ _ _

theorem declaredNames_of_plan (hs : project.settings = .standard)
    (h : project.plan disk file = .ok plan) (hw : plan.IsWhole) :
    Go.declaredNames (stubText project.settings plan.package plan.service.name plan.imports
      plan.methods) =
        if plan.service.name = ['_'] then [constructor] else [plan.service.name, constructor] := by
  have hgenerator : '\n' ∉ project.settings.generatorName := by
    rw [hs]
    decide
  have hclient : Go.IsString ('"' :: project.settings.clientImport ++ ['"']) := by
    rw [hs]
    exact ⟨_, rfl, .of_plain (by decide), by decide⟩
  obtain ⟨hpackage, content, found, types, -, hfound, -, rfl⟩ := plan_eq_ok_iff.1 h
  have htidy := Interface.isTidy_of_ofContent hfound
  obtain ⟨hplain, c, rest, hc, hname⟩ :=
    Interface.name_of_findService (Interface.findService_of_ofContent hfound)
  have hword : Stub.IsWord found.service.name := by
    refine ⟨by simp [hname], fun c hc => Text.isWordChar_of_isPlainWordChar (hplain c hc)⟩
  have hnames := Stub.declaredNames_stubText hgenerator hpackage hword hclient hw.imports
    fun method hm => ⟨htidy method hm, hw.responseTypes method hm⟩
  have hservice := Service.isDeclarable_eq hc (hname ▸ hplain)
  rw [← hname] at hservice
  have hconstructor : Go.isDeclarable constructor := by decide +kernel
  rw [hnames, List.filter_cons, hservice, List.filter_cons_of_pos hconstructor, List.filter_nil]
  by_cases hblank : found.service.name = ['_'] <;> simp [hblank]

/-- What the file of an output declares, and where it is. -/
theorem exists_names_of_mem_outputsIn (hs : project.settings = .standard)
    (hscan : project.scan disk = .ok files)
    (h : Completes project.generate files disk stubs failed after) {directory output : Path}
    (hm : output ∈ outputsIn stubs directory) :
    ∃ package content type : Text, Path.IsName package ∧
      directory = project.packageDirectory package ∧
      output = directory.join (project.outputName ⟨type⟩) ∧
      after.read output = .ok (Text.encode content) ∧
      Go.packageName? content = some package ∧
      ((∀ file ∈ files, ∀ plan, project.plan disk file = .ok plan → plan.IsWhole) →
        Go.declaredNames content = if type = ['_'] then [constructor] else [type, constructor]) ∧
      ∃ stub ∈ stubs, stub.output = output ∧ stub.service = type := by
  have hk : project.settings.KeepsPlaces := ⟨by rw [hs], by rw [hs], by rw [hs]⟩
  rw [outputsIn, List.mem_dedup, List.mem_filter] at hm
  obtain ⟨hmap, hparent⟩ := hm
  obtain ⟨stub, hstub, rfl⟩ := List.mem_map.1 hmap
  obtain ⟨last, hlast, houtput, file, hfile, plan, hplan, rfl, hread⟩ :=
    h.exists_last hk hscan hstub
  have hpath : plan.output = stub.output := houtput
  have hdirectory : directory = project.packageDirectory plan.package := by
    have hplaced := parent?_output hk hplan
    rw [hpath, beq_iff_eq.1 hparent] at hplaced
    exact Option.some.inj hplaced
  refine ⟨plan.package, _, plan.service.name, isName_of_plan hplan, hdirectory, ?_, hread,
    packageName?_of_plan hs hplan,
    fun hw => declaredNames_of_plan hs hplan (hw file hfile plan hplan), _, hlast, houtput, rfl⟩
  rw [← hpath, hdirectory]
  exact output_of_plan hplan

/-- Across the outputs of a run in one directory, all files have the clause of one package, and no
two of them have a struct of one name.  If the imports of the scanned files are string literals and
their response types whole, each output declares its struct and the constructor, or just the
constructor if the struct has no name.  So no name is declared twice only if there is one output,
and its struct has another name than the constructor. -/
theorem declaredNames_of_run (hs : project.settings = .standard)
    (hscan : project.scan disk = .ok files) {report : Report GeneratedStub}
    (h : project.run .keepGoing disk = (.ok report, after)) (directory : Path) :
    ∃ (package : Text) (content type : Path → Text),
      (∀ output ∈ outputsIn report.stubs directory,
        Path.IsName package ∧ directory = project.packageDirectory package ∧
        after.read output = .ok (Text.encode (content output)) ∧
        Go.packageName? (content output) = some package ∧
        ∃ stub ∈ report.stubs, stub.output = output ∧ stub.service = type output) ∧
      ((outputsIn report.stubs directory).map type).Nodup ∧
      ((∀ file ∈ files, ∀ plan, project.plan disk file = .ok plan → plan.IsWhole) →
        (∀ output ∈ outputsIn report.stubs directory, Go.declaredNames (content output) =
          if type output = ['_'] then [constructor] else [type output, constructor]) ∧
        (((outputsIn report.stubs directory).flatMap fun output =>
            Go.declaredNames (content output)).Nodup ↔
          (outputsIn report.stubs directory).length ≤ 1 ∧
            constructor ∉ (outputsIn report.stubs directory).map type)) := by
  obtain ⟨others, hothers, hcompletes⟩ := exists_completes_of_run h
  obtain rfl : others = files := Except.ok.inj (hothers.symm.trans hscan)
  choose! package content type hname hdirectory houtput hread hpackage hnames hstub using
    fun output (hm : output ∈ outputsIn report.stubs directory) =>
      exists_names_of_mem_outputsIn hs hscan hcompletes hm
  -- Any output tells the package of the others, because the directory ends in its name.
  obtain ⟨common, hcommon⟩ : ∃ common, ∀ output ∈ outputsIn report.stubs directory,
      package output = common := by
    by_cases hfirst : ∃ first, first ∈ outputsIn report.stubs directory
    · obtain ⟨first, hf⟩ := hfirst
      refine ⟨package first, fun output hm => ?_⟩
      exact eq_of_packageDirectory_eq (hname output hm) (hname first hf)
        ((hdirectory output hm).symm.trans (hdirectory first hf))
    · exact ⟨[], fun output hm => absurd ⟨output, hm⟩ hfirst⟩
  have htypes : ((outputsIn report.stubs directory).map type).Nodup := by
    refine List.Nodup.map_on ?_ (List.nodup_dedup _)
    intro first hf last hl heq
    rw [houtput first hf, houtput last hl, heq]
  refine ⟨common, content, type, ?_, htypes, fun hw => ⟨fun output hm => hnames output hm hw, ?_⟩⟩
  · intro output hm
    rw [← hcommon output hm]
    exact ⟨hname output hm, hdirectory output hm, hread output hm, hpackage output hm,
      hstub output hm⟩
  · refine nodup_flatMap_common_iff htypes fun output hm => ?_
    rw [hnames output hm hw]
    by_cases hblank : type output = ['_']
    · rw [if_pos hblank, hblank]
      exact .inr ⟨rfl, by decide⟩
    · rw [if_neg hblank]
      exact .inl rfl

/-- Two interface files of one group with packages of different names. -/
def twinDisk : Disk :=
  .ofFiles [("go.mod", "module m"),
    ("pkg/model/b/x/client.go", "package p\ntype Client interface\x7b\x7d"),
    ("pkg/model/b/y/client.go", "package q\ntype Client interface\x7b\x7d")]

def twinFiles : List InterfaceFile :=
  [⟨['b'], ⟨"./pkg/model/b/x/client.go".toList⟩⟩, ⟨['b'], ⟨"./pkg/model/b/y/client.go".toList⟩⟩]

def twinOutputs : List Path :=
  [⟨"./pkg/client/b/generated.p.go".toList⟩, ⟨"./pkg/client/b/generated.q.go".toList⟩]

theorem exists_run_twinDisk :
    ∃ report after, crowdedSample.run .keepGoing twinDisk = (.ok report, after) ∧
      outputsIn report.stubs ⟨"./pkg/client/b".toList⟩ = twinOutputs :=
  exists_run_of_map (by decide +kernel)

/-- Two interface files as before, one of them with a method. -/
def methodDisk : Disk :=
  .ofFiles [("go.mod", "module m"),
    ("pkg/model/b/x/client.go",
      "package p\ntype Client interface\x7b\n\tGet(c C, r *R) (*map[string]S, error)\n\x7d"),
    ("pkg/model/b/y/client.go", "package q\ntype Client interface\x7b\x7d")]

/-- Whether a plan has the import of its types only, and no response types but one. -/
def isSample (plan : Plan) : Bool :=
  plan.imports == ["\"m/pkg/model/b\"".toList] &&
    plan.methods.all fun method => method.responseType == "*map[string]S".toList

theorem isWhole_of_isSample {plan : Plan} (h : isSample plan) : plan.IsWhole := by
  simp only [isSample, Bool.and_eq_true, beq_iff_eq, List.all_eq_true] at h
  obtain ⟨himports, htypes⟩ := h
  refine ⟨fun text hm => ?_, fun method hm => ?_⟩
  · rw [himports, List.mem_singleton] at hm
    exact ⟨"m/pkg/model/b".toList, hm, .of_plain (by decide), by decide⟩
  · rw [htypes method hm]
    have hreads := Go.Reads.of_plain "*map[string]S".toList [] (by decide +kernel)
    exact ⟨⟨_, by simpa using hreads⟩, by decide +kernel⟩

theorem isWhole_of_all (h : twinFiles.all fun file =>
      (crowdedSample.plan disk file).toOption.all isSample) :
    ∀ file ∈ twinFiles, ∀ plan, crowdedSample.plan disk file = .ok plan → plan.IsWhole := by
  intro file hf plan hplan
  have hall := List.all_eq_true.1 h file hf
  rw [hplan] at hall
  exact isWhole_of_isSample hall

/-- Each of the two outputs declares its struct and the constructor. -/
theorem declaredNames_of_run_sample :
    ∃ report after, crowdedSample.run .keepGoing methodDisk = (.ok report, after) ∧
      outputsIn report.stubs ⟨"./pkg/client/b".toList⟩ = twinOutputs ∧
      ∃ content : Path → Text,
        (twinOutputs.map fun output => Go.declaredNames (content output)) =
          [[['P'], constructor], [['Q'], constructor]] ∧
        (∀ output ∈ twinOutputs, after.read output = .ok (Text.encode (content output)) ∧
          Go.packageName? (content output) = some ['b']) ∧
        ¬ (twinOutputs.flatMap fun output => Go.declaredNames (content output)).Nodup := by
  have hscan : crowdedSample.scan methodDisk = .ok twinFiles := by decide +kernel
  obtain ⟨report, after, hrun, hreport⟩ : ∃ report after,
      crowdedSample.run .keepGoing methodDisk = (.ok report, after) ∧
        (outputsIn report.stubs ⟨"./pkg/client/b".toList⟩,
          report.stubs.map fun stub => (stub.output, stub.service)) =
            (twinOutputs, twinOutputs.zip [['P'], ['Q']]) :=
    exists_run_of_map (by decide +kernel)
  obtain ⟨houtputs, hstubs⟩ := Prod.mk.inj hreport
  obtain ⟨package, content, type, hall, -, hnames⟩ :=
    declaredNames_of_run rfl hscan hrun ⟨"./pkg/client/b".toList⟩
  rw [houtputs] at hall hnames
  obtain ⟨hdeclared, hnodup⟩ := hnames (isWhole_of_all (by decide +kernel))
  have htypes : ∀ output ∈ twinOutputs, (output, type output) ∈ twinOutputs.zip [['P'], ['Q']] := by
    intro output hm
    obtain ⟨-, -, -, -, stub, hstub, rfl, hservice⟩ := hall output hm
    rw [← hstubs, ← hservice]
    exact List.mem_map_of_mem hstub
  refine ⟨report, after, hrun, houtputs, content, ?_, fun output hm => ?_, fun h => ?_⟩
  · rw [List.map_congr_left hdeclared]
    have hp : type ⟨"./pkg/client/b/generated.p.go".toList⟩ = ['P'] := by
      simpa [twinOutputs] using htypes _ List.mem_cons_self
    have hq : type ⟨"./pkg/client/b/generated.q.go".toList⟩ = ['Q'] := by
      simpa [twinOutputs] using htypes _ (List.mem_cons_of_mem _ List.mem_cons_self)
    rw [twinOutputs, List.map_cons, List.map_cons, hp, hq]
    rfl
  · obtain ⟨hname, hdirectory, hread, hpackage, -⟩ := hall output hm
    have hb : crowdedSample.packageDirectory ['b'] = crowdedSample.packageDirectory package :=
      Eq.trans (by decide) hdirectory
    rw [← eq_of_packageDirectory_eq (by decide) hname hb] at hpackage
    exact ⟨hread, hpackage⟩
  · exact absurd (hnodup.1 h).1 (by decide)

/-- With the standard settings, two files of one package declare the constructor. -/
theorem exists_name_declared_twice :
    ∃ report after, Project.load twinDisk ⟨['.']⟩ .standard = .ok crowdedSample ∧
      crowdedSample.run .keepGoing twinDisk = (.ok report, after) ∧
      outputsIn report.stubs ⟨"./pkg/client/b".toList⟩ = twinOutputs ∧ twinOutputs.Nodup ∧
      ∀ output ∈ twinOutputs, ∃ content, after.read output = .ok (Text.encode content) ∧
        Go.packageName? content = some ['b'] ∧ constructor ∈ Go.declaredNames content := by
  have hscan : crowdedSample.scan twinDisk = .ok twinFiles := by decide +kernel
  obtain ⟨report, after, hrun, htwin⟩ := exists_run_twinDisk
  refine ⟨report, after, by decide +kernel, hrun, htwin, by decide, fun output hm => ?_⟩
  obtain ⟨files, hfiles, hcompletes⟩ := exists_completes_of_run hrun
  obtain rfl : files = twinFiles := Except.ok.inj (hfiles.symm.trans hscan)
  rw [← htwin] at hm
  obtain ⟨package, content, type, hname, hdirectory, -, hread, hpackage, hnames, -⟩ :=
    exists_names_of_mem_outputsIn rfl hscan hcompletes hm
  have hb : crowdedSample.packageDirectory ['b'] = crowdedSample.packageDirectory package :=
    Eq.trans (by decide) hdirectory
  rw [← eq_of_packageDirectory_eq (by decide) hname hb] at hpackage
  refine ⟨content, hread, hpackage, ?_⟩
  rw [hnames (isWhole_of_all (by decide +kernel))]
  split <;> simp

end Project

end GoStubs
