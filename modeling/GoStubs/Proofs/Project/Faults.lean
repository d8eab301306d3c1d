import GoStubs.Proofs.Project.Policies

/-!
# Where the faults of a run come from

A run stops with the fault of one of its steps, and the lines of its report are those of such
faults.  A step fails at its interface file, at the import path of the types that the file uses, or
at the place of its stub.
-/

namespace GoStubs

/-- A fault of an interface file, which cannot be read or does not declare what a stub needs. -/
inductive InterfaceFile.IsFault (file : InterfaceFile) : Fault → Prop where
  | unread (error : DiskError) : IsFault file (.io file.path (.disk error))
  | unusable (error : InterfaceError) :
      IsFault file (.extractionFailed file.path (.interface error))

namespace Fault

/-- A fault of the file system, or of what a file declares. -/
inductive IsOfFile : Fault → Prop where
  | io (path : Path) (cause : Cause) : IsOfFile (.io path cause)
  | extraction (path : Path) (cause : Cause) : IsOfFile (.extractionFailed path cause)

variable {fault : Fault}

theorem exists_line_eq (fault : Fault) : ∃ rest, fault.line = fault.message ++ rest := by
  rw [line, chain]
  cases fault.causes with
  | nil => exact ⟨[], by simp⟩
  | cons cause causes => exact ⟨_, by rw [List.intercalate_cons_cons, List.append_assoc]⟩

/-- The line of such a fault is told from that of an argument by its first characters. -/
theorem IsOfFile.not_prefix_line (h : IsOfFile fault) :
    ¬ "Invalid argument: ".toList <+: fault.line := by
  obtain ⟨rest, hline⟩ := fault.exists_line_eq
  rw [hline]
  rintro ⟨more, hmore⟩
  cases h with
  | io path cause =>
      change _ =
        "I/O error at ".toList ++ path.text ++ ": ".toList ++ cause.message ++ rest at hmore
      simp at hmore
  | extraction path cause =>
      change _ = "Failed to extract client interface from ".toList ++ path.text ++ rest at hmore
      simp at hmore

theorem IsOfFile.ne_invalidArgument (h : IsOfFile fault) (message : Text) :
    fault ≠ .invalidArgument message := by
  cases h <;> simp

end Fault

theorem InterfaceFile.IsFault.isOfFile {file : InterfaceFile} {fault : Fault}
    (h : file.IsFault fault) : fault.IsOfFile := by
  cases h with
  | unread error => exact .io _ _
  | unusable error => exact .extraction _ _

theorem Stub.IsOutputFault.isOfFile {path : Path} {fault : Fault} (h : IsOutputFault path fault) :
    fault.IsOfFile := by
  obtain ⟨error, rfl | ⟨parent, -, rfl⟩⟩ := h
  · exact .io _ _
  · exact .io _ _

theorem InterfaceFile.exists_of_scan_error {disk : Disk} {root : Path} {settings : Settings}
    {fault : Fault} (h : scan disk root settings = .error fault) :
    ∃ path cause, fault = .scanFailed path cause := by
  simp only [scan] at h
  split at h
  · unfold below at h
    split at h
    · cases h
    · dsimp only at h
      split at h
      · exact ⟨_, _, (Except.error.inj h).symm⟩
      · cases h
  · cases h

namespace Project

/-! ### Steps -/

section Steps

variable {α : Type} {step : Disk → InterfaceFile → Except Fault α × Disk}
  {files : List InterfaceFile} {disk after : Disk} {stubs : List α} {failed : List FailedFile}
  {policy : Policy} {fault : Fault}

/-- Each failed file of a report stands for a step that has failed. -/
theorem Completes.exists_step_of_mem_failed {failure : FailedFile}
    (h : Completes step files disk stubs failed after) (hm : failure ∈ failed) :
    ∃ file ∈ files, ∃ earlier fault middle, step earlier file = (.error fault, middle) ∧
      failure = ⟨file.path, fault.line⟩ := by
  induction h with
  | done disk => cases hm
  | stub head tail ih =>
      obtain ⟨file, hfile, hstep⟩ := ih hm
      exact ⟨file, List.mem_cons_of_mem _ hfile, hstep⟩
  | failure head tail ih =>
      rcases List.mem_cons.1 hm with rfl | hm
      · exact ⟨_, List.mem_cons_self, _, _, _, head, rfl⟩
      · obtain ⟨file, hfile, hstep⟩ := ih hm
        exact ⟨file, List.mem_cons_of_mem _ hfile, hstep⟩

/-- A run that stops does so with the fault of a step. -/
theorem exists_step_of_process_error
    (h : process step policy files disk = (.error fault, after)) :
    ∃ file ∈ files, ∃ earlier, step earlier file = (.error fault, after) := by
  obtain ⟨made, missed, last, hc⟩ := exists_completes step files disk
  cases policy with
  | keepGoing => simp [completes_iff.2 hc] at h
  | failFast =>
      rcases missed with _ | ⟨first, more⟩
      · simp [hc.process_failFast] at h
      · obtain ⟨other, there, hfirst, hstop⟩ := hc.exists_firstFailure
        obtain ⟨before, file, later, made, earlier, rfl, -, hstep, -⟩ := hfirst
        rw [hstop, Prod.mk.injEq, Except.error.injEq] at h
        obtain ⟨rfl, rfl⟩ := h
        exact ⟨file, by simp, earlier, hstep⟩

end Steps

/-! ### Files -/

variable {project : Project} {disk after : Disk} {file : InterfaceFile} {fault : Fault}

theorem plan_error_cases (h : project.plan disk file = .error fault) :
    file.IsFault fault ∨
      typesImport project.root project.moduleName file.path = .error fault := by
  simp only [plan, Except.bind_eq_error_iff, Except.mapError_eq_error_iff] at h
  rcases h with ⟨error, -, rfl⟩ | ⟨-, -, ⟨error, -, rfl⟩ | ⟨content, -, ⟨error, -, rfl⟩ |
    ⟨found, -, htypes | ⟨types, -, hpure⟩⟩⟩⟩
  · exact .inl (.unusable error)
  · exact .inl (.unread error)
  · exact .inl (.unusable error)
  · exact .inr htypes
  · cases hpure

theorem plan_of_render_error (h : project.render disk file = .error fault) :
    project.plan disk file = .error fault := by
  cases hplan : project.plan disk file with
  | error other => simpa [render, hplan, bind, Except.bind] using h
  | ok plan =>
      obtain ⟨base, wrappers, -, -, hcontent⟩ := plan.exists_content project.settings
      simp [render, hplan, hcontent, bind, Except.bind, pure, Except.pure] at h

theorem plan_or_output_of_generate_error
    (h : project.generate disk file = (.error fault, after)) :
    project.plan disk file = .error fault ∨ ∃ path, Stub.IsOutputFault path fault := by
  rcases project.generate_cases disk file with
    ⟨other, hrender, hgenerate⟩ | ⟨rendered, -, ⟨other, last, hgenerate, hfault, -⟩ |
      ⟨location, last, hgenerate, -⟩⟩
  · rw [hgenerate, Prod.mk.injEq, Except.error.injEq] at h
    exact .inl (h.1 ▸ plan_of_render_error hrender)
  · rw [hgenerate, Prod.mk.injEq, Except.error.injEq] at h
    exact .inr ⟨_, h.1 ▸ hfault⟩
  · simp [hgenerate] at h

end Project

end GoStubs
