import GoStubs.Project.Run
import GoStubs.Proofs.Project.Generate

/-!
# Runs that come to their end

A run that keeps going takes one step for each interface file, and each step
starts from the disk that the steps before it have left.  The relation below
says so with one rule for a stub and one for a failed file.  A complete run that
writes stubs makes the disk grow, and the files that it writes are the ones at
the ends of the reported output paths.
-/

namespace GoStubs.Project

section Steps

variable {α : Type}

/-- The files are taken one by one, and each has a stub or has failed. -/
inductive Completes (step : Disk → InterfaceFile → Except Fault α × Disk) :
    List InterfaceFile → Disk → List α → List FailedFile → Disk → Prop where
  | done (disk : Disk) : Completes step [] disk [] [] disk
  | stub {file : InterfaceFile} {rest : List InterfaceFile} {disk middle after : Disk} {stub : α}
      {stubs : List α} {failed : List FailedFile} (head : step disk file = (.ok stub, middle))
      (tail : Completes step rest middle stubs failed after) :
      Completes step (file :: rest) disk (stub :: stubs) failed after
  | failure {file : InterfaceFile} {rest : List InterfaceFile} {disk middle after : Disk}
      {fault : Fault} {stubs : List α} {failed : List FailedFile}
      (head : step disk file = (.error fault, middle))
      (tail : Completes step rest middle stubs failed after) :
      Completes step (file :: rest) disk stubs (⟨file.path, fault.line⟩ :: failed) after

variable {step : Disk → InterfaceFile → Except Fault α × Disk} {files : List InterfaceFile}
  {disk after : Disk} {stubs : List α} {failed : List FailedFile}

theorem completes_iff :
    process step .keepGoing files disk = (.ok (stubs, failed), after) ↔
      Completes step files disk stubs failed after := by
  constructor
  · intro h
    induction files generalizing disk stubs failed after with
    | nil =>
        cases h
        exact .done disk
    | cons file rest ih =>
        rcases hs : step disk file with ⟨fault | stub, middle⟩
        all_goals
          rcases hp : process step .keepGoing rest middle with ⟨other | ⟨more, missed⟩, last⟩
          · simp [process, hs, hp] at h
          simp only [process, hs, hp, Prod.mk.injEq, Except.ok.injEq] at h
          obtain ⟨⟨rfl, rfl⟩, rfl⟩ := h
        · exact .failure hs (ih hp)
        · exact .stub hs (ih hp)
  · intro h
    induction h with
    | done disk => rfl
    | stub head tail ih => simp [process, head, ih]
    | failure head tail ih => simp [process, head, ih]

/-- A run that keeps going comes to its end, whatever the steps do. -/
theorem exists_completes (step : Disk → InterfaceFile → Except Fault α × Disk)
    (files : List InterfaceFile) (disk : Disk) :
    ∃ stubs failed after, Completes step files disk stubs failed after := by
  induction files generalizing disk with
  | nil => exact ⟨[], [], disk, .done disk⟩
  | cons file rest ih =>
      rcases hs : step disk file with ⟨fault | stub, middle⟩
      all_goals obtain ⟨stubs, failed, after, h⟩ := ih middle
      · exact ⟨stubs, _, after, .failure hs h⟩
      · exact ⟨stub :: stubs, failed, after, .stub hs h⟩

/-- Around each stub a complete run falls into two, with the step of that stub between them. -/
theorem Completes.split {before later : List α} {stub : α}
    (h : Completes step files disk (before ++ stub :: later) failed after) :
    ∃ first file rest earlier middle missed more, files = first ++ file :: rest ∧
      Completes step first disk before missed earlier ∧
      step earlier file = (.ok stub, middle) ∧
      Completes step rest middle later more after := by
  generalize hs : before ++ stub :: later = stubs at h
  induction h generalizing before with
  | done disk => simp at hs
  | @stub file rest disk middle after found stubs failed head tail ih =>
      cases before with
      | nil =>
          cases hs
          exact ⟨[], file, rest, disk, middle, [], failed, rfl, .done disk, head, tail⟩
      | cons found before =>
          cases hs
          obtain ⟨first, other, others, earlier, next, missed, more, rfl, hfirst, hstep, hrest⟩ :=
            ih rfl
          exact ⟨file :: first, other, others, earlier, next, missed, more, rfl,
            .stub head hfirst, hstep, hrest⟩
  | @failure file rest disk middle after fault stubs failed head tail ih =>
      obtain ⟨first, other, others, earlier, next, missed, more, rfl, hfirst, hstep, hrest⟩ :=
        ih hs
      exact ⟨file :: first, other, others, earlier, next, _, more, rfl,
        .failure head hfirst, hstep, hrest⟩

end Steps

/-! ## The files that a run writes -/

/-- Whether a location is the end of the output path of one of the stubs. -/
def Written (disk : Disk) (stubs : List GeneratedStub) (location : Location) : Prop :=
  ∃ stub ∈ stubs, disk.walk stub.output = .ok ⟨location, false⟩

variable {project : Project} {files : List InterfaceFile} {disk after : Disk}
  {stubs : List GeneratedStub} {failed : List FailedFile}

/-- Where the file of a stub lies, and what it holds when it has just been written. -/
theorem exists_location_of_generate {file : InterfaceFile} {stub : GeneratedStub}
    (h : project.generate disk file = (.ok stub, after)) :
    ∃ rendered location, project.render disk file = .ok rendered ∧
      stub = rendered.toGeneratedStub ∧ after.walk stub.output = .ok ⟨location, false⟩ ∧
      after.find? location = some (.file (Text.encode rendered.content)) ∧
      Disk.Grows (· = location) disk after := by
  rcases project.generate_cases disk file with
    ⟨fault, -, hg⟩ | ⟨rendered, hr, ⟨fault, last, hg, -⟩ | ⟨location, last, hg, hrest⟩⟩
  · simp [hg] at h
  · simp [hg] at h
  · rw [hg, Prod.mk.injEq, Except.ok.injEq] at h
    obtain ⟨rfl, rfl⟩ := h
    exact ⟨rendered, location, hr, rfl, hrest⟩

theorem grows_of_generate_error {file : InterfaceFile} {fault : Fault}
    (h : project.generate disk file = (.error fault, after)) :
    Disk.Grows (fun _ => False) disk after := by
  rcases project.generate_cases disk file with
    ⟨other, -, hg⟩ | ⟨rendered, -, ⟨other, last, hg, -, hgrows⟩ | ⟨location, last, hg, -⟩⟩
  · rw [hg, Prod.mk.injEq] at h
    rw [← h.2]
    exact Disk.Grows.refl disk
  · rw [hg, Prod.mk.injEq] at h
    rw [← h.2]
    exact hgrows
  · simp [hg] at h

/-- A run writes to no files but the ones that it reports. -/
theorem Completes.grows (h : Completes project.generate files disk stubs failed after) :
    Disk.Grows (Written after stubs) disk after := by
  induction h with
  | done disk => exact Disk.Grows.refl disk
  | @stub file rest disk middle after stub stubs failed head tail ih =>
      obtain ⟨rendered, location, -, -, hw, hf, hgrows⟩ := exists_location_of_generate head
      have hlast : after.walk stub.output = .ok ⟨location, false⟩ :=
        ih.walk hw (.inr (ih.file location _ hf))
      have hfirst : Disk.Grows (Written after (stub :: stubs)) disk middle := by
        apply hgrows.mono
        rintro _ rfl
        exact ⟨stub, List.mem_cons_self, hlast⟩
      refine hfirst.trans (ih.mono ?_)
      rintro other ⟨found, hm, ho⟩
      exact ⟨found, List.mem_cons_of_mem _ hm, ho⟩
  | failure head tail ih =>
      exact ((grows_of_generate_error head).mono fun _ hn => hn.elim).trans ih

end GoStubs.Project
