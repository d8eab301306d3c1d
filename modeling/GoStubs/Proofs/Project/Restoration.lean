import GoStubs.Proofs.Disk.Removal
import GoStubs.Proofs.Project.Repetition
import GoStubs.Proofs.Project.Sources

/-!
# Stubs that come back

Between two runs the files of a repository may be removed.  A stub that is missing makes no
difference to the next run, which writes it in any case.  So it comes back, and the disk is as it
was before the stub was removed.
-/

namespace GoStubs

open Disk (Leads GrowsByStubs IsStubPlace)

namespace Disk

variable {disk : Disk} {there location : Location} {content : Text.Bytes}

/-- A disk without a stub grows by the stub to what it was. -/
theorem growsByStubs_remove (hs : IsStubPlace there location)
    (hf : disk.find? location = some (.file content)) :
    GrowsByStubs there (disk.remove location) disk where
  grows :=
    { workingDirectory := (workingDirectory_remove disk location).symm
      directory := fun place hd => (find?_remove_eq_directory_iff hf place).1 hd
      file := by
        intro place kept hk
        rw [find?_remove hf] at hk
        split at hk
        · cases hk
        · exact ⟨kept, hk⟩
      frame := by
        intro place hp
        rw [find?_remove hf, if_neg]
        · exact .inl rfl
        · rintro rfl
          exact hp hs }
  directory place _ hd := (find?_remove_eq_directory_iff hf place).2 hd
  outside place hp := by
    rw [find?_remove hf, if_neg]
    rintro rfl
    obtain ⟨group, name, rfl⟩ := hs
    rw [List.append_assoc] at hp
    exact hp (List.prefix_append _ _)

theorem Leads.remove {path : Path} {here : Location} (h : Leads disk path here)
    (hf : disk.find? location = some (.file content)) :
    Leads (disk.remove location) path here where
  endsInName := h.endsInName
  walk := (walk_remove_iff hf).2 h.walk
  directory := (find?_remove_eq_directory_iff hf here).2 h.directory

/-- What puts a file back covers the disk like before it was removed. -/
theorem Covers.restore {cover : Location → Option Entry} {last : Disk}
    (hf : disk.find? location = some (.file content)) (h : Covers cover disk disk)
    (hlast : Covers cover (disk.remove location) last) {again : Text.Bytes}
    (hagain : last.find? location = some (.file again)) : last = disk := by
  apply ext_find? (hlast.workingDirectory.trans (workingDirectory_remove disk location))
  · intro place
    have hbefore := h.find? place
    have hafter := hlast.find? place
    rw [find?_remove hf] at hafter
    by_cases hp : place = location
    · subst hp
      rw [if_pos rfl, Option.or_none] at hafter
      rw [hafter, hbefore, ← hafter, hagain, Option.some_or]
    · rw [if_neg hp] at hafter
      rw [hafter, ← hbefore]
  · have hroot : ¬ location <+: [] := by
      rw [List.prefix_nil]
      rintro rfl
      cases hf
    rw [hlast.root, (remove_eq_of_file hf).1, Entries.getElem?_without, if_neg hroot]

end Disk

namespace Project

variable {project : Project} {disk after : Disk} {file : InterfaceFile}
  {files : List InterfaceFile} {here : Location} {stubs : List GeneratedStub}
  {failed : List FailedFile} {stub : GeneratedStub}

/-- After a complete run, an output leads to a file. -/
theorem Completes.exists_file (h : Completes project.generate files disk stubs failed after)
    (hm : stub ∈ stubs) :
    ∃ location content, after.walk stub.output = .ok ⟨location, false⟩ ∧
      after.find? location = some (.file content) := by
  obtain ⟨before, later, rfl⟩ := List.append_of_mem hm
  obtain ⟨first, file, rest, earlier, middle, missed, more, -, -, hstep, hrest⟩ := h.split
  obtain ⟨rendered, location, -, rfl, hwalk, hfile, -⟩ := exists_location_of_generate hstep
  obtain ⟨content, hcontent⟩ := hrest.grows.file location _ hfile
  exact ⟨location, content, hrest.grows.walk hwalk (.inr ⟨content, hcontent⟩), hcontent⟩

theorem isStubPlace_of_plan {plan : Plan} {earlier : Disk} {spot : Spot}
    (hk : project.settings.KeepsPlaces) (hp : project.plan earlier file = .ok plan)
    (hl : Leads disk project.common here) (hw : disk.walk plan.output = .ok spot) :
    IsStubPlace (here ++ [outputFolder]) spot.location := by
  have hname := isName_stubName (isStem_of_plan hp).isPlain
  obtain ⟨hpackage, content, found, types, -, -, -, rfl⟩ := plan_eq_ok_iff.1 hp
  have hgroup := Path.isName_of_isWord (Go.isWord_of_isPackageName hpackage)
  have hfolder : Path.IsName outputFolder := by decide
  have hhere : here = project.common.resolve disk.workingDirectory :=
    Disk.location_of_walk hl.walk
  refine ⟨file.group, stubName found.service, ?_⟩
  rw [outputPath_eq hk] at hw
  rw [location_of_walk_join hname hw, Path.resolve_join_name _ hgroup.2.2.1 hgroup.1 hgroup.2.1,
    Path.resolve_join_name _ hfolder.2.2.1 hfolder.1 hfolder.2.1, ← hhere]

theorem scan_remove {location : Location} {content : Text.Bytes}
    (hk : project.settings.KeepsPlaces) (hscan : project.scan disk = .ok files)
    (hf : file ∈ files) (hl : Leads disk project.common here)
    (hs : IsStubPlace (here ++ [outputFolder]) location)
    (hc : disk.find? location = some (.file content)) :
    project.scan (disk.remove location) = .ok files := by
  obtain ⟨spot, hw, -, hbeside⟩ := exists_scanDir hk hscan hf hl
  rw [← hscan]
  exact InterfaceFile.scan_congr ((Disk.walk_remove_iff hc).2 hw) hw
    fun names => ((Disk.growsByStubs_remove hs hc).outside _ (hbeside names)).symm

/-- With the standard directories, a stub that is removed after a run comes back with the next run,
which has the report of the first, and leaves the disk as the first has left it. -/
theorem run_restores {report : Report GeneratedStub} (hk : project.settings.KeepsPlaces)
    (h : project.run .keepGoing disk = (.ok report, after)) (hm : stub ∈ report.stubs) :
    ∃ less, after.removeAll stub.output = (true, less) ∧
      less.read stub.output = .error .notFound ∧
      project.run .keepGoing less = (.ok report, after) := by
  obtain ⟨files, hscan, hcompletes⟩ := exists_completes_of_run h
  obtain ⟨location, content, hwalk, hfile⟩ := hcompletes.exists_file hm
  obtain ⟨file, hf, earlier, plan, hplan, rfl⟩ := hcompletes.exists_plan hm
  obtain ⟨here, hl⟩ := exists_leads_of_mem_scan hk hscan hf
  -- The run comes to the same on the disk that it has left.
  have hsettles := settles_run hk hscan hf hl .keepGoing
  have hgrown : GrowsByStubs (here ++ [outputFolder]) disk after := by
    simpa only [h] using hsettles.stands (.refl disk)
  have hagain : project.run .keepGoing after = (.ok report, after) := by
    simpa only [h] using hsettles.again (.refl disk)
  have hafter := scan_of_growsByStubs hk hscan hf hl hgrown
  have hleads := hl.of_grows hgrown.grows
  -- That disk has grown by the stub from the one where the stub is missing.
  have hplace : IsStubPlace (here ++ [outputFolder]) location :=
    isStubPlace_of_plan hk hplan hleads hwalk
  have hscanned := scan_remove hk hafter hf hleads hplace hfile
  obtain ⟨result, cover, hall⟩ := settles_run hk hscanned hf (hleads.remove hfile) .keepGoing
  obtain ⟨hresult, hcovers, -⟩ := hall after (Disk.growsByStubs_remove hplace hfile)
  obtain ⟨hreport, hback, -⟩ := hall _ (.refl _)
  rw [hagain] at hresult hcovers
  refine ⟨_, Disk.removeAll_of_file hwalk hfile, Disk.read_remove hwalk hfile, ?_⟩
  rcases hrun : project.run .keepGoing (after.remove location) with ⟨outcome, last⟩
  rw [hrun] at hreport hback
  obtain rfl : outcome = .ok report := hreport.trans hresult.symm
  obtain ⟨_, -, hcompletesAgain⟩ := exists_completes_of_run hrun
  obtain ⟨there, again, hthere, hcontent⟩ := hcompletesAgain.exists_file hm
  have hsame : there = location := by
    have hdirectory : last.workingDirectory = after.workingDirectory :=
      hback.workingDirectory.trans (Disk.workingDirectory_remove after location)
    have hlocation := Disk.location_of_walk hthere
    rw [hdirectory] at hlocation
    exact hlocation.trans (Disk.location_of_walk hwalk).symm
  subst hsame
  have hlast : last = after := Disk.Covers.restore hfile hcovers hback hcontent
  rw [hlast]

end Project

end GoStubs
