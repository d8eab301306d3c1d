import GoStubs.Proofs.Disk.Additions
import GoStubs.Proofs.Project.Independence

/-!
# What a run leaves alone

A run takes nothing away, and it changes no file but the ones that it reports.
The directories that it adds are made for the stubs that it has planned: each is
the parent of an output, or an ancestor of the parent.  That holds of files that
fail as well, since a fault only cuts short what is done for a stub.
-/

namespace GoStubs

open Disk (Adds GrowsByFiles Grows)

variable {disk after : Disk} {location : Location}

/-! ### Writing one stub -/

namespace Stub

variable {path : Path}

theorem growsByFiles_writeBase (disk : Disk) (path : Path) (base : Text) :
    GrowsByFiles (makeParent disk path).2 (writeBase disk path base).2 := by
  rcases hm : makeParent disk path with ⟨fault | _, made⟩
  · simpa only [writeBase, hm] using GrowsByFiles.refl made
  · cases hw : made.write path (Text.encode base) with
    | error error => simpa only [writeBase, hm, hw] using GrowsByFiles.refl made
    | ok last => simpa only [writeBase, hm, hw] using GrowsByFiles.write hw

theorem growsByFiles_append (disk : Disk) (path : Path) (wrappers : Text) :
    GrowsByFiles disk (append disk path wrappers).2 := by
  cases ha : disk.append path (Text.encode wrappers) with
  | error error => simpa only [append, ha] using GrowsByFiles.refl disk
  | ok last => simpa only [append, ha] using GrowsByFiles.append ha

theorem exists_ancestor_of_makeParent (h : Adds disk (makeParent disk path).2 location) :
    ∃ parent, path.parent? = some parent ∧ ∃ ancestor ∈ parent.ancestors,
      (makeParent disk path).2.walk ancestor = .ok ⟨location, false⟩ := by
  unfold makeParent at h ⊢
  cases hp : path.parent? with
  | none =>
      rw [hp] at h
      exact absurd h (Disk.not_adds_self disk location)
  | some parent =>
      rw [hp] at h
      exact ⟨parent, rfl, Disk.exists_ancestor_of_makeDirectories h⟩

end Stub

/-- Once the parent of its output has been made, a plan puts no more than files on the disk. -/
theorem Plan.growsByFiles_write (plan : Plan) (settings : Settings) (disk : Disk) :
    GrowsByFiles (Stub.makeParent disk plan.output).2 (plan.write settings disk).2 := by
  obtain ⟨base, wrappers, hb, hw, -⟩ := plan.exists_content settings
  have hbase := Stub.growsByFiles_writeBase disk plan.output base
  rcases hm : Stub.writeBase disk plan.output base with ⟨fault | _, middle⟩
  · rw [hm] at hbase
    simpa only [Plan.write, hb, hm] using hbase
  · rw [hm] at hbase
    have happend := Stub.growsByFiles_append middle plan.output wrappers
    simpa only [Plan.write, hb, hw, hm] using hbase.trans happend

/-- A directory that writing a plan adds is the parent of the output or an ancestor of it. -/
theorem Plan.exists_ancestor_of_write {plan : Plan} {settings : Settings}
    (h : Adds disk (plan.write settings disk).2 location) :
    ∃ parent, plan.output.parent? = some parent ∧ ∃ ancestor ∈ parent.ancestors,
      (plan.write settings disk).2.walk ancestor = .ok ⟨location, false⟩ := by
  have hfiles := plan.growsByFiles_write settings disk
  have hmade := hfiles.directory location h.1
  obtain ⟨parent, hp, ancestor, ha, hw⟩ := Stub.exists_ancestor_of_makeParent ⟨hmade, h.2⟩
  exact ⟨parent, hp, ancestor, ha, hfiles.grows.walk hw (.inl hmade)⟩

/-! ### Runs -/

namespace Project

variable {project : Project} {file : InterfaceFile} {files : List InterfaceFile}
  {stubs : List GeneratedStub} {failed : List FailedFile}

theorem exists_plan_of_generate (h : Adds disk (project.generate disk file).2 location) :
    ∃ plan parent, project.plan disk file = .ok plan ∧ plan.output.parent? = some parent ∧
      ∃ ancestor ∈ parent.ancestors,
        (project.generate disk file).2.walk ancestor = .ok ⟨location, false⟩ := by
  cases hp : project.plan disk file with
  | error fault =>
      simp only [generate, hp] at h
      exact absurd h (Disk.not_adds_self disk location)
  | ok plan =>
      have hlast : (project.generate disk file).2 = (plan.write project.settings disk).2 := by
        rcases hw : plan.write project.settings disk with ⟨_ | _, last⟩ <;>
          simp only [generate, hp, hw]
      rw [hlast] at h ⊢
      obtain ⟨parent, hparent, hancestor⟩ := Plan.exists_ancestor_of_write h
      exact ⟨plan, parent, rfl, hparent, hancestor⟩

/-- Whether a disk is the one that the step of a file starts from, in a run over `files` that starts
from `disk`. -/
def Reaches (project : Project) (files : List InterfaceFile) (disk : Disk) (file : InterfaceFile)
    (earlier : Disk) : Prop :=
  ∃ first rest stubs failed, files = first ++ file :: rest ∧
    Completes project.generate first disk stubs failed earlier

theorem reaches_head (project : Project) (file : InterfaceFile) (rest : List InterfaceFile)
    (disk : Disk) : Reaches project (file :: rest) disk file disk :=
  ⟨[], rest, [], [], rfl, .done disk⟩

theorem Reaches.cons {middle earlier : Disk} {first : InterfaceFile}
    (h : Reaches project files middle file earlier)
    (hs : (project.generate disk first).2 = middle) :
    Reaches project (first :: files) disk file earlier := by
  obtain ⟨before, rest, stubs, failed, rfl, hc⟩ := h
  rcases hg : project.generate disk first with ⟨fault | stub, last⟩
  all_goals
    rw [hg] at hs
    subst hs
  · exact ⟨first :: before, rest, stubs, _, rfl, .failure hg hc⟩
  · exact ⟨first :: before, rest, stub :: stubs, failed, rfl, .stub hg hc⟩

/-- Whether a location is that of the parent of an output that a run over `files` has planned, or of
an ancestor of the parent. -/
def IsOutputParent (project : Project) (files : List InterfaceFile) (disk after : Disk)
    (location : Location) : Prop :=
  ∃ file earlier plan parent, Reaches project files disk file earlier ∧
    project.plan earlier file = .ok plan ∧ plan.output.parent? = some parent ∧
    ∃ ancestor ∈ parent.ancestors, after.walk ancestor = .ok ⟨location, false⟩

/-- Each directory that is there after a run, and was not before, has been added by the step of one
of the files. -/
theorem isOutputParent_cons {middle : Disk} {first : InterfaceFile}
    (hs : (project.generate disk first).2 = middle)
    (hg : Grows (Written after stubs) middle after)
    (ht : Adds middle after location → IsOutputParent project files middle after location)
    (h : Adds disk after location) :
    IsOutputParent project (first :: files) disk after location := by
  -- If the first step has not made the directory, a later one has.
  by_cases hm : middle.find? location = some .directory
  · subst hs
    obtain ⟨plan, parent, hp, hparent, ancestor, ha, hw⟩ := exists_plan_of_generate ⟨hm, h.2⟩
    exact ⟨first, disk, plan, parent, reaches_head project first files disk, hp, hparent,
      ancestor, ha, hg.walk hw (.inl hm)⟩
  · obtain ⟨file, earlier, plan, parent, hreaches, hrest⟩ := ht ⟨h.1, hm⟩
    exact ⟨file, earlier, plan, parent, hreaches.cons hs, hrest⟩

theorem Completes.isOutputParent (h : Completes project.generate files disk stubs failed after)
    (ha : Adds disk after location) : IsOutputParent project files disk after location := by
  induction h with
  | done disk => exact absurd ha (Disk.not_adds_self disk location)
  | stub head tail ih => exact isOutputParent_cons (by rw [head]) tail.grows ih ha
  | failure head tail ih => exact isOutputParent_cons (by rw [head]) tail.grows ih ha

/-- A run that keeps going takes no directory and no file away.  A file changes only if the output
path of a reported stub leads to it, and a directory is added only for an output that has been
planned. -/
theorem frame_of_run {report : Report GeneratedStub}
    (h : project.run .keepGoing disk = (.ok report, after)) :
    (∀ location, disk.find? location = some .directory →
      after.find? location = some .directory) ∧
    (∀ location content, disk.find? location = some (.file content) →
      ∃ changed, after.find? location = some (.file changed)) ∧
    (∀ location, (∀ stub ∈ report.stubs, after.walk stub.output ≠ .ok ⟨location, false⟩) →
      ∀ content, after.find? location = some (.file content) ↔
        disk.find? location = some (.file content)) ∧
    ∃ files, project.scan disk = .ok files ∧ ∀ location, Adds disk after location →
      IsOutputParent project files disk after location := by
  obtain ⟨files, hscan, hcompletes⟩ := exists_completes_of_run h
  have hgrows := hcompletes.grows
  refine ⟨hgrows.directory, hgrows.file, ?_, files, hscan, ?_⟩
  · intro location hl content
    apply hgrows.file_eq
    rintro ⟨stub, hm, hw⟩
    exact hl stub hm hw
  · intro location ha
    exact hcompletes.isOutputParent ha

/-- Two of the files fail, one of them because a file is in the way of its group.  That file is
kept, and the one directory that is added is the group of the others. -/
theorem frame_of_run_crowded :
    ∃ report after, crowdedSample.run .keepGoing crowdedDisk = (.ok report, after) ∧
      report.failed.length = 2 ∧
      after.find? (["pkg", "client", "c"].map String.toList) = some (.file []) ∧
      Adds crowdedDisk after (["pkg", "client", "a"].map String.toList) ∧
      ∃ files, crowdedSample.scan crowdedDisk = .ok files ∧
        IsOutputParent crowdedSample files crowdedDisk after
          (["pkg", "client", "a"].map String.toList) := by
  have hreport : (crowdedSample.run .keepGoing crowdedDisk).1.map
      (fun report => (report.stubs.map GeneratedStub.output, report.failed.length)) =
        .ok (List.replicate 2 ⟨"./pkg/client/a/generated.p.go".toList⟩, 2) := by decide +kernel
  have hwalk : (crowdedSample.run .keepGoing crowdedDisk).2.walk
      ⟨"./pkg/client/a/generated.p.go".toList⟩ ≠
        .ok ⟨["pkg", "client", "c"].map String.toList, false⟩ := by decide +kernel
  have hbefore : crowdedDisk.find? (["pkg", "client", "c"].map String.toList) =
      some (.file []) := by decide +kernel
  have hadds : (crowdedSample.run .keepGoing crowdedDisk).2.find?
      (["pkg", "client", "a"].map String.toList) = some .directory ∧
      crowdedDisk.find? (["pkg", "client", "a"].map String.toList) ≠ some .directory := by
    decide +kernel
  obtain ⟨report, after, hrun, hstubs⟩ := exists_run_of_map hreport
  rw [hrun] at hwalk hadds
  obtain ⟨houtputs, hfailed⟩ := Prod.mk.inj hstubs
  obtain ⟨-, -, hfiles, files, hscan, hadded⟩ := frame_of_run hrun
  refine ⟨report, after, hrun, hfailed, ?_, hadds, files, hscan, hadded _ hadds⟩
  refine (hfiles _ (fun stub hm => ?_) []).2 hbefore
  have houtput : stub.output ∈ report.stubs.map GeneratedStub.output :=
    List.mem_map.2 ⟨stub, hm, rfl⟩
  rw [houtputs] at houtput
  rw [List.eq_of_mem_replicate houtput]
  exact hwalk

end Project

end GoStubs
