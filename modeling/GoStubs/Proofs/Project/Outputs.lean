import GoStubs.Proofs.Except
import GoStubs.Proofs.Project.Completion
import GoStubs.Proofs.Project.Scan

/-!
# What the outputs hold after a run

Each output path of a run leads to a file that holds the stub of the last
interface file with an output there.  It is the stub that would have been
rendered before the run, unless an earlier output took the place of the
interface file itself.  Two stubs of one group whose services have the same name
in lower case share an output, and only the later one is kept.
-/

namespace GoStubs

namespace Project

variable {project : Project} {disk after : Disk} {file : InterfaceFile}

/-- A plan depends on the disk through the content of the interface file alone. -/
theorem plan_congr {other : Disk} (h : disk.read file.path = other.read file.path) :
    project.plan disk file = project.plan other file := by
  simp only [plan, Disk.readText, h]

theorem render_congr {other : Disk} (h : disk.read file.path = other.read file.path) :
    project.render disk file = project.render other file := by
  rw [render, render, plan_congr h]

/-- A plan needs a group that can name a package, a text that can be read, and an interface. -/
theorem plan_eq_ok_iff {plan : Plan} :
    project.plan disk file = .ok plan ↔
      Go.isPackageName file.group ∧ ∃ content found types,
        disk.readText file.path = .ok content ∧
        Interface.ofContent project.settings.importMarker content = .ok found ∧
        typesImport project.root project.moduleName file.path = .ok types ∧
        plan = {
          source := file.path
          service := found.service
          package := file.group
          imports := withImport found.imports (quoted types)
          methods := found.methods
          output := project.outputPath file found.service } := by
  simp only [Project.plan, Except.bind_eq_ok_iff, Except.mapError_eq_ok_iff,
    Except.pure_eq_ok_iff]
  constructor
  · rintro ⟨⟨⟩, hg, content, hc, found, hf, types, ht, rfl⟩
    exact ⟨checkPackageName_eq_ok_iff.1 hg, content, found, types, hc, hf, ht, rfl⟩
  · rintro ⟨hg, content, found, types, hc, hf, ht, rfl⟩
    exact ⟨(), checkPackageName_eq_ok_iff.2 hg, content, hc, found, hf, types, ht, rfl⟩

/-- What is rendered comes from the interface file, which has been read. -/
theorem source_of_render {rendered : RenderedStub} (h : project.render disk file = .ok rendered) :
    rendered.source = file.path ∧ ∃ content, disk.read file.path = .ok content := by
  simp only [render, Except.bind_eq_ok_iff, Except.pure_eq_ok_iff] at h
  obtain ⟨plan, hp, content, -, rfl⟩ := h
  obtain ⟨-, text, found, types, ht, -, -, rfl⟩ := plan_eq_ok_iff.1 hp
  rw [Disk.readText, Except.bind_eq_ok_iff] at ht
  obtain ⟨bytes, hb, -⟩ := ht
  exact ⟨rfl, bytes, hb⟩

/-- What is rendered for a scanned file is the same later on, if no output has taken the place of
the file. -/
theorem render_of_grows {written : Location → Prop} {files : List InterfaceFile}
    {rendered : RenderedStub} (hscan : project.scan disk = .ok files) (hfile : file ∈ files)
    (hgrows : disk.Grows written after) (hr : project.render after file = .ok rendered)
    (hw : ∀ location, after.walk file.path = .ok ⟨location, false⟩ → ¬ written location) :
    project.render disk file = .ok rendered := by
  obtain ⟨-, content, hread⟩ := source_of_render hr
  obtain ⟨location, hwalk, hf⟩ := Disk.read_eq_ok_iff.1 hread
  have hsize := (Disk.walk_eq_ok_iff.1 hwalk).1.2.2
  obtain ⟨there, before, hbefore, hthere⟩ :=
    InterfaceFile.exists_location_of_mem_scan hscan hfile
  have hagain : after.walk file.path = .ok ⟨there, false⟩ :=
    hgrows.walk (hthere hsize) (.inr (hgrows.file there before hbefore))
  -- The scanned location is the one at which the file has been read.
  rw [hwalk, Except.ok.injEq, Spot.mk.injEq] at hagain
  obtain ⟨rfl, -⟩ := hagain
  have hsame := (hgrows.file_eq (hw location hwalk)).1 hf
  have hdisk : disk.read file.path = .ok content :=
    Disk.read_eq_ok_iff.2 ⟨location, hthere hsize, hsame⟩
  rw [render_congr (hdisk.trans hread.symm), hr]

/-- A run that keeps going and gives a report is complete. -/
theorem exists_completes_of_run {report : Report GeneratedStub}
    (h : project.run .keepGoing disk = (.ok report, after)) :
    ∃ files, project.scan disk = .ok files ∧
      Completes project.generate files disk report.stubs report.failed after := by
  unfold run at h
  cases hs : project.scan disk with
  | error fault => simp [hs] at h
  | ok files =>
      refine ⟨files, rfl, ?_⟩
      rcases hp : process project.generate .keepGoing files disk with ⟨fault | outcome, last⟩
      · simp [hs, hp, Except.map] at h
      · simp only [hs, hp, Except.map, Prod.mk.injEq, Except.ok.injEq] at h
        obtain ⟨rfl, rfl⟩ := h
        exact completes_iff.1 hp

theorem exists_run_of_map {β : Type} {policy : Policy} {f : Report GeneratedStub → β} {value : β}
    (h : (project.run policy disk).1.map f = .ok value) :
    ∃ report after, project.run policy disk = (.ok report, after) ∧ f report = value := by
  rcases hrun : project.run policy disk with ⟨_ | report, after⟩
  · rw [hrun] at h
    cases h
  · rw [hrun] at h
    exact ⟨report, after, rfl, Except.ok.inj h⟩

/-- A stub that no later one is written over, and whose interface file no earlier one is written
over, is kept as it would have been rendered before the run. -/
theorem Completes.read_output {files : List InterfaceFile} {before later : List GeneratedStub}
    {stub : GeneratedStub} {failed : List FailedFile} (hscan : project.scan disk = .ok files)
    (h : Completes project.generate files disk (before ++ stub :: later) failed after)
    (hsource : ∀ other ∈ before, after.walk other.output ≠ after.walk stub.source)
    (houtput : ∀ other ∈ later, after.walk other.output ≠ after.walk stub.output) :
    ∃ file ∈ files, file.path = stub.source ∧ ∃ rendered,
      project.render disk file = .ok rendered ∧ rendered.toGeneratedStub = stub ∧
      after.read stub.output = .ok (Text.encode rendered.content) := by
  obtain ⟨first, file, rest, earlier, middle, missed, more, rfl, hfirst, hstep, hrest⟩ := h.split
  obtain ⟨rendered, location, hr, rfl, hwalk, hfile, hgrows⟩ := exists_location_of_generate hstep
  have hpath : file.path = rendered.source := (source_of_render hr).1.symm
  have hmem : file ∈ first ++ file :: rest := by simp
  have hlast : after.walk rendered.output = .ok ⟨location, false⟩ :=
    hrest.grows.walk hwalk (.inr (hrest.grows.file location _ hfile))
  refine ⟨file, hmem, hpath, rendered, ?_, rfl, ?_⟩
  · -- The steps before have not changed the interface file.
    apply render_of_grows hscan hmem hfirst.grows hr
    rintro there hthere ⟨other, ho, hother⟩
    obtain ⟨-, content, hread⟩ := source_of_render hr
    obtain ⟨_, hwalked, hcontent⟩ := Disk.read_eq_ok_iff.1 hread
    cases hthere.symm.trans hwalked
    have hall : Disk.Grows (fun _ => True) earlier after :=
      (hgrows.mono fun _ _ => trivial).trans (hrest.grows.mono fun _ _ => trivial)
    have hend {path : Path} (hw : earlier.walk path = .ok ⟨there, false⟩) :
        after.walk path = .ok ⟨there, false⟩ := hall.walk hw (.inr (hall.file there _ hcontent))
    apply hsource other ho
    rw [hend hother, ← hpath, hend hthere]
  · -- The steps behind have not changed the output.
    have hkept := (hrest.grows.file_eq ?_).2 hfile
    · exact Disk.read_eq_ok_iff.2 ⟨location, hlast, hkept⟩
    · rintro ⟨other, ho, hother⟩
      exact houtput other ho (hother.trans hlast.symm)

theorem exists_last_of_mem {α : Type} {p : α → Prop} {list : List α} {member : α}
    (hm : member ∈ list) (hp : p member) :
    ∃ before last later, list = before ++ last :: later ∧ p last ∧ ∀ other ∈ later, ¬ p other := by
  induction list generalizing member with
  | nil => simp at hm
  | cons head rest ih =>
      by_cases hr : ∃ other ∈ rest, p other
      · obtain ⟨other, ho, hother⟩ := hr
        obtain ⟨before, last, later, rfl, hlast, hlater⟩ := ih ho hother
        exact ⟨head :: before, last, later, rfl, hlast, hlater⟩
      · rcases List.mem_cons.1 hm with rfl | hm
        · exact ⟨[], member, rest, rfl, hp, fun other ho hother => hr ⟨other, ho, hother⟩⟩
        · exact absurd ⟨member, hm, hp⟩ hr

/-- After a run that keeps going, the output of each reported stub holds the text of the last stub
with an output at the same place.  It is the text that rendering gives before the run, if no stub
before that one has taken the place of its interface file. -/
theorem read_output_of_run {report : Report GeneratedStub}
    (h : project.run .keepGoing disk = (.ok report, after)) :
    ∃ files, project.scan disk = .ok files ∧ ∀ stub ∈ report.stubs,
      ∃ before last later, report.stubs = before ++ last :: later ∧
        after.walk last.output = after.walk stub.output ∧
        (∀ other ∈ later, after.walk other.output ≠ after.walk stub.output) ∧
        ((∀ other ∈ before, after.walk other.output ≠ after.walk last.source) →
          ∃ file ∈ files, file.path = last.source ∧ ∃ rendered,
            project.render disk file = .ok rendered ∧ rendered.toGeneratedStub = last ∧
            after.read stub.output = .ok (Text.encode rendered.content)) := by
  obtain ⟨files, hscan, hcompletes⟩ := exists_completes_of_run h
  refine ⟨files, hscan, fun stub hm => ?_⟩
  obtain ⟨before, last, later, hstubs, hsame, hlater⟩ :=
    exists_last_of_mem (p := fun other : GeneratedStub =>
      after.walk other.output = after.walk stub.output) hm rfl
  refine ⟨before, last, later, hstubs, hsame, hlater, fun hsource => ?_⟩
  rw [hstubs] at hcompletes
  obtain ⟨file, hfile, hpath, rendered, hr, hrendered, hread⟩ :=
    hcompletes.read_output hscan hsource fun other ho => hsame ▸ hlater other ho
  refine ⟨file, hfile, hpath, rendered, hr, hrendered, ?_⟩
  rw [← hread, Disk.read, Disk.read, hsame]

/-- A repository where two interface files of one group declare one package. -/
def sharedDisk : Disk :=
  .ofFiles [("go.mod", "module m"), ("m/b/x/c.go", "package p\ntype Client interface\x7b\x7d"),
    ("m/b/y/z/c.go", "package p\ntype Client interface\x7b\nF(r *R) (*S, error)\n\x7d")]

def sharedStub (source : String) (functionCount : Nat) : GeneratedStub :=
  ⟨⟨source.toList⟩, ⟨"./o/b/generated.p.go".toList⟩, ['P'], functionCount⟩

def sharedReport : Report GeneratedStub :=
  ⟨['m'], [sharedStub "./m/b/x/c.go" 0, sharedStub "./m/b/y/z/c.go" 1], []⟩

/-- The stub of the second file is what both outputs hold. -/
theorem read_output_of_run_shared :
    ∃ report after, sample.run .keepGoing sharedDisk = (.ok report, after) ∧
      report.stubs.length = 2 ∧ ∀ stub ∈ report.stubs, ∃ file rendered,
        sample.render sharedDisk file = .ok rendered ∧
        rendered.source = ⟨"./m/b/y/z/c.go".toList⟩ ∧
        after.read stub.output = .ok (Text.encode rendered.content) := by
  have hreport : (sample.run .keepGoing sharedDisk).1 = .ok sharedReport := by decide +kernel
  have hsource : (sample.run .keepGoing sharedDisk).2.walk ⟨"./o/b/generated.p.go".toList⟩ ≠
      (sample.run .keepGoing sharedDisk).2.walk ⟨"./m/b/y/z/c.go".toList⟩ := by decide +kernel
  rcases hrun : sample.run .keepGoing sharedDisk with ⟨result, after⟩
  rw [hrun] at hreport hsource
  subst hreport
  refine ⟨sharedReport, after, rfl, rfl, fun stub hm => ?_⟩
  have houtput : stub.output = ⟨"./o/b/generated.p.go".toList⟩ := by
    simp only [sharedReport, List.mem_cons, List.not_mem_nil, or_false] at hm
    rcases hm with rfl | rfl <;> rfl
  obtain ⟨files, -, hall⟩ := read_output_of_run hrun
  obtain ⟨before, last, later, hstubs, -, hlater, hread⟩ := hall stub hm
  rcases before with _ | ⟨first, _ | ⟨second, before⟩⟩
  · cases hstubs
    exact absurd (by rw [houtput]; rfl) (hlater _ List.mem_cons_self)
  · cases hstubs
    obtain ⟨file, -, -, rendered, hr, hrendered, hcontent⟩ := hread (by
      intro other ho
      cases List.mem_singleton.1 ho
      exact hsource)
    exact ⟨file, rendered, hr, by rw [hrendered]; rfl, hcontent⟩
  · simp [sharedReport] at hstubs

/-- A stub that is reported need not be kept: the two files are reported with one output, and it
does not hold what was rendered for the first of them. -/
theorem exists_lost_output :
    ∃ report after file, Project.load sharedDisk sample.root sample.settings = .ok sample ∧
      sample.run .keepGoing sharedDisk = (.ok report, after) ∧
      sample.scan sharedDisk = .ok [file, ⟨['b'], ⟨"./m/b/y/z/c.go".toList⟩⟩] ∧
      ∃ stub ∈ report.stubs, stub.source = file.path ∧ ∃ rendered,
        sample.render sharedDisk file = .ok rendered ∧
        after.read stub.output ≠ .ok (Text.encode rendered.content) := by
  have hreport : (sample.run .keepGoing sharedDisk).1 = .ok sharedReport := by decide +kernel
  have hlost : (sample.run .keepGoing sharedDisk).2.read ⟨"./o/b/generated.p.go".toList⟩ ≠
      ((sample.render sharedDisk ⟨['b'], ⟨"./m/b/x/c.go".toList⟩⟩).mapError fun _ =>
        DiskError.notFound).map fun rendered => Text.encode rendered.content := by decide +kernel
  have hrendered : (sample.render sharedDisk ⟨['b'], ⟨"./m/b/x/c.go".toList⟩⟩).toBool := by
    decide +kernel
  rcases hrun : sample.run .keepGoing sharedDisk with ⟨result, after⟩
  rw [hrun] at hreport hlost
  subst hreport
  rcases hr : sample.render sharedDisk ⟨['b'], ⟨"./m/b/x/c.go".toList⟩⟩ with _ | rendered
  · rw [hr] at hrendered
    cases hrendered
  simp only [hr, Except.mapError, Except.map] at hlost
  exact ⟨sharedReport, after, ⟨['b'], ⟨"./m/b/x/c.go".toList⟩⟩, by decide +kernel, rfl,
    by decide +kernel, sharedStub "./m/b/x/c.go" 0, List.mem_cons_self, rfl, rendered, hr, hlost⟩

end Project

end GoStubs
