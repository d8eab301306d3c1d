import GoStubs.Proofs.Disk.Overlay
import GoStubs.Proofs.Path.Resolution
import GoStubs.Proofs.Project.Independence
import GoStubs.Proofs.Project.Loading
import GoStubs.Proofs.Project.Locality

/-!
# Runs that are repeated

With the standard directories, a run changes nothing that it looks at: not the scan directory, not
the manifest, and not what settles how each stub is written.  What it puts on the disk depends on
these alone.  So a second run ends like the first, under either policy, and leaves the disk as it
is, though stubs that share a place are written over each other in both.
-/

namespace GoStubs

open Disk (Leads GrowsByStubs)

namespace Project

section Steps

variable {α : Type} {stands : Disk → Prop} {step : Disk → InterfaceFile → Except Fault α × Disk}
  {files : List InterfaceFile}

/-- What a run comes to after the step of a file, from what the rest of the run does. -/
def goOn (policy : Policy) (file : InterfaceFile)
    (rest : Disk → Except Fault (List α × List FailedFile) × Disk) :
    Except Fault α → Disk → Except Fault (List α × List FailedFile) × Disk
  | .ok stub, disk =>
    ((rest disk).1.map fun (stubs, failed) => (stub :: stubs, failed), (rest disk).2)
  | .error fault, disk =>
    match policy with
    | .failFast => (.error fault, disk)
    | .keepGoing =>
      ((rest disk).1.map fun (stubs, failed) => (stubs, ⟨file.path, fault.line⟩ :: failed),
        (rest disk).2)

theorem process_cons (policy : Policy) (file : InterfaceFile) (rest : List InterfaceFile)
    (disk : Disk) : process step policy (file :: rest) disk =
      goOn policy file (process step policy rest) (step disk file).1 (step disk file).2 := by
  rw [process]
  rcases step disk file with ⟨fault | stub, middle⟩
  · cases policy
    · rcases hp : process step .keepGoing rest middle with ⟨other | ⟨stubs, failed⟩, after⟩ <;>
        simp [goOn, hp, Except.map]
    · rfl
  · rcases hp : process step policy rest middle with ⟨other | ⟨stubs, failed⟩, after⟩ <;>
      simp [goOn, hp, Except.map]

/-- Steps that settle make a run that settles. -/
theorem settles_process (policy : Policy)
    (hstep : ∀ file ∈ files, Settles stands fun disk => step disk file) :
    Settles stands (process step policy files) := by
  induction files with
  | nil => exact Settles.pure _
  | cons file rest ih =>
      obtain ⟨hfile, hrest⟩ := List.forall_mem_cons.1 hstep
      have hnext (result : Except Fault α) :
          Settles stands (goOn policy file (process step policy rest) result) := by
        cases result with
        | ok stub => exact (ih hrest).map _
        | error fault =>
            cases policy with
            | failFast => exact Settles.pure _
            | keepGoing => exact (ih hrest).map _
      apply (hfile.andThen hnext).congr
      intro disk _
      exact process_cons policy file rest disk

end Steps

variable {project : Project} {disk after : Disk} {file : InterfaceFile}
  {files : List InterfaceFile} {here : Location} {names : List Text} {plan : Plan}

theorem snd_generate (h : project.plan disk file = .ok plan) :
    (project.generate disk file).2 = (plan.write project.settings disk).2 := by
  rcases hw : plan.write project.settings disk with ⟨fault | made, after⟩ <;>
    simp [generate, h, hw]

/-- Generating a stub comes to the same on all disks that have grown by stubs. -/
theorem IsSource.settles_generate (h : IsSource project file names)
    (hk : project.settings.KeepsPlaces) (hl : Leads disk project.common here)
    {content : Text.Bytes}
    (hf : disk.find? (here ++ "model".toList :: file.group :: names) = some (.file content)) :
    Settles (GrowsByStubs (here ++ [outputFolder]) disk)
      fun other => project.generate other file := by
  have hplan {other : Disk} (hg : GrowsByStubs (here ++ [outputFolder]) disk other) :
      project.plan other file = project.plan disk file := plan_congr (h.read_eq hl hf hg)
  cases hp : project.plan disk file with
  | error fault =>
      apply (Settles.pure (.error fault)).congr
      intro other hg
      simp [generate, hplan hg, hp]
  | ok plan =>
      refine ⟨(project.generate disk file).1, plan.cover project.settings (here ++ [outputFolder])
        file.group (stubName plan.service) disk, fun other hg => ?_⟩
      have hother : project.plan other file = .ok plan := (hplan hg).trans hp
      have hwritten := h.written hk (hl.of_grows hg.grows) hother
      obtain ⟨hresult, hgrowth⟩ := h.generate_eq hk hl hf hg
      refine ⟨hresult, ?_, hg.trans hgrowth⟩
      rw [snd_generate hother, ← plan.cover_eq project.settings _ _ hg]
      exact hwritten.covers

/-- What a name that is joined to a path leads to lies directly in the place of the path. -/
theorem location_of_walk_join {path : Path} {name : Text} {spot : Spot} (hn : Path.IsName name)
    (h : disk.walk (path.join name) = .ok spot) :
    spot.location = path.resolve disk.workingDirectory ++ [name] := by
  rw [Disk.location_of_walk h, Path.resolve_join_name path hn.2.2.1 hn.1 hn.2.1]

/-- The scan directory lies beside the directory of stubs. -/
theorem exists_scanDir (hk : project.settings.KeepsPlaces) (hscan : project.scan disk = .ok files)
    (hf : file ∈ files) (hl : Leads disk project.common here) :
    ∃ spot, disk.walk (project.root.join project.settings.scanDir) = .ok spot ∧
      disk.find? spot.location = some .directory ∧
      ∀ names, ¬ here ++ [outputFolder] <+: spot.location ++ names := by
  obtain ⟨spot, item, hw, hm, -⟩ := InterfaceFile.exists_item_of_mem_scan hscan hf
  obtain ⟨hentry, hne⟩ := Disk.find?_of_mem_below hm
  refine ⟨spot, hw, Disk.find?_of_append hentry hne, fun names => ?_⟩
  have hspot : spot.location = here ++ ["model".toList] := by
    have hhere : here = project.common.resolve disk.workingDirectory :=
      Disk.location_of_walk hl.walk
    have hmodel := hw
    rw [scanDir_eq hk] at hmodel
    rw [hhere, location_of_walk_join (by decide) hmodel]
  rw [hspot, List.append_assoc, List.prefix_append_right_inj, List.singleton_append,
    List.cons_prefix_cons]
  rintro ⟨hname, -⟩
  exact absurd hname (by decide)

/-- Stubs do not lie in the scan directory, so the scan is the same. -/
theorem scan_of_growsByStubs (hk : project.settings.KeepsPlaces)
    (hscan : project.scan disk = .ok files) (hf : file ∈ files)
    (hl : Leads disk project.common here)
    (hg : GrowsByStubs (here ++ [outputFolder]) disk after) :
    project.scan after = .ok files := by
  obtain ⟨spot, hw, hdirectory, hbeside⟩ := exists_scanDir hk hscan hf hl
  rw [← hscan]
  exact InterfaceFile.scan_congr (hg.grows.walk hw (.inl hdirectory)) hw
    fun names => hg.outside _ (hbeside names)

/-- Stubs do not lie beside the manifest either. -/
theorem load_of_growsByStubs {root : Path} {settings : Settings}
    (hm : settings.manifest = Settings.standard.manifest)
    (h : Project.load disk root settings = .ok project)
    (hl : Leads disk project.common here)
    (hg : GrowsByStubs (here ++ [outputFolder]) disk after) :
    Project.load after root settings = .ok project := by
  obtain ⟨hcheck, name, hname, rfl⟩ := load_eq_ok_iff.1 h
  obtain ⟨content, hread, hmodule⟩ := Manifest.moduleName_eq_ok_iff.1 hname
  obtain ⟨location, hwalk, hfile⟩ := Disk.read_eq_ok_iff.1 hread
  have hlocation : location = root.resolve disk.workingDirectory ++ ["go.mod".toList] := by
    rw [hm] at hwalk
    exact location_of_walk_join (by decide) hwalk
  have hhere : here = root.resolve disk.workingDirectory ++ ["pkg".toList] :=
    location_of_walk_join (by decide) hl.walk
  have hkept : after.find? location = some (.file content) := by
    rw [hg.outside, hfile]
    -- The directory of stubs is deeper than the manifest.
    intro hp
    have hlength := hp.length_le
    rw [hlocation, hhere] at hlength
    simp only [List.length_append, List.length_singleton] at hlength
    omega
  have hagain : after.read (root.join settings.manifest) = .ok content :=
    Disk.read_eq_ok_iff.2 ⟨location, hg.grows.walk hwalk (.inr ⟨content, hkept⟩), hkept⟩
  exact load_eq_ok_iff.2
    ⟨hcheck, name, Manifest.moduleName_eq_ok_iff.2 ⟨content, hagain, hmodule⟩, rfl⟩

theorem settles_run (hk : project.settings.KeepsPlaces) (hscan : project.scan disk = .ok files)
    (hf : file ∈ files) (hl : Leads disk project.common here) (policy : Policy) :
    Settles (GrowsByStubs (here ++ [outputFolder]) disk) (project.run policy) := by
  have hstep : ∀ file ∈ files, Settles (GrowsByStubs (here ++ [outputFolder]) disk)
      fun other => project.generate other file := by
    intro file hfile
    obtain ⟨names, content, hsource, hcontent⟩ := exists_isSource_of_mem_scan hk hscan hfile hl
    exact hsource.settles_generate hk hl hcontent
  apply ((settles_process policy hstep).map fun outcome => outcome.map project.report).congr
  intro other hg
  rw [run, scan_of_growsByStubs hk hscan hf hl hg]

/-- With the standard directories and manifest, a second run ends with the report or the fault of
the first, and leaves the disk as the first has left it.  The project that is loaded for it is the
same. -/
theorem run_again {root : Path} {settings : Settings} (hk : settings.KeepsPlaces)
    (hm : settings.manifest = Settings.standard.manifest)
    (h : Project.load disk root settings = .ok project) (policy : Policy) :
    Project.load (project.run policy disk).2 root settings = .ok project ∧
      project.run policy (project.run policy disk).2 = project.run policy disk := by
  have hsettings : project.settings.KeepsPlaces := by
    obtain ⟨-, name, -, rfl⟩ := load_eq_ok_iff.1 h
    exact hk
  cases hscan : project.scan disk with
  | error fault =>
      have hrun : project.run policy disk = (.error fault, disk) := by simp [run, hscan]
      rw [hrun]
      exact ⟨h, hrun⟩
  | ok files =>
      rcases files with _ | ⟨file, rest⟩
      · have hrun : (project.run policy disk).2 = disk := by simp [run, hscan, process]
        rw [hrun]
        exact ⟨h, rfl⟩
      · have hf : file ∈ file :: rest := List.mem_cons_self
        obtain ⟨here, hl⟩ := exists_leads_of_mem_scan hsettings hscan hf
        have hsettles := settles_run hsettings hscan hf hl policy
        have hstart : GrowsByStubs (here ++ [outputFolder]) disk disk := .refl disk
        exact ⟨load_of_growsByStubs hm h hl (hsettles.stands hstart), hsettles.again hstart⟩

/-- Two interface files share an output where an older stub is, and a directory is in the way of the
stub of the third. -/
def staleDisk : Disk :=
  .ofFiles [("go.mod", "module m"),
    ("pkg/model/a/x/client.go", "package p\ntype Client interface\x7b\x7d"),
    ("pkg/model/a/y/client.go", "package P\ntype Client interface\x7b\x7d"),
    ("pkg/model/c/x/client.go", "package p\ntype Client interface\x7b\x7d"),
    ("pkg/client/a/generated.p.go", "older"), ("pkg/client/c/generated.p.go/x", "")]

theorem run_again_stale :
    (∃ report after, crowdedSample.run .keepGoing staleDisk = (.ok report, after) ∧
      report.stubs.length = 2 ∧ report.failed.length = 1 ∧ after ≠ staleDisk ∧
      Project.load after crowdedSample.root crowdedSample.settings = .ok crowdedSample ∧
      crowdedSample.run .keepGoing after = (.ok report, after)) ∧
    ∃ fault after, crowdedSample.run .failFast staleDisk = (.error fault, after) ∧
      after ≠ staleDisk ∧ crowdedSample.run .failFast after = (.error fault, after) := by
  have hload : Project.load staleDisk crowdedSample.root crowdedSample.settings =
      .ok crowdedSample := by decide +kernel
  have hagain := run_again ⟨rfl, rfl, rfl⟩ rfl hload
  have hchanged (policy : Policy) : (crowdedSample.run policy staleDisk).2 ≠ staleDisk := by
    intro heq
    have hread : (crowdedSample.run policy staleDisk).2.read
        ⟨"pkg/client/a/generated.p.go".toList⟩ ≠
          staleDisk.read ⟨"pkg/client/a/generated.p.go".toList⟩ := by
      cases policy <;> decide +kernel
    exact hread (by rw [heq])
  constructor
  · have hreport : (crowdedSample.run .keepGoing staleDisk).1.map
        (fun report => (report.stubs.length, report.failed.length)) = .ok (2, 1) := by
      decide +kernel
    obtain ⟨hloaded, hsame⟩ := hagain .keepGoing
    have hafter := hchanged .keepGoing
    rcases hrun : crowdedSample.run .keepGoing staleDisk with ⟨_ | report, after⟩
    · rw [hrun] at hreport
      cases hreport
    rw [hrun] at hreport hloaded hsame hafter
    obtain ⟨hstubs, hfailed⟩ := Prod.mk.inj (Except.ok.inj hreport)
    exact ⟨report, after, rfl, hstubs, hfailed, hafter, hloaded, hsame⟩
  · have hfails : (crowdedSample.run .failFast staleDisk).1.toBool = false := by decide +kernel
    obtain ⟨-, hsame⟩ := hagain .failFast
    have hafter := hchanged .failFast
    rcases hrun : crowdedSample.run .failFast staleDisk with ⟨fault | _, after⟩
    · rw [hrun] at hsame hafter
      exact ⟨fault, after, rfl, hafter, hsame⟩
    · rw [hrun] at hfails
      cases hfails

end Project

end GoStubs
