import Mathlib.Data.Option.Basic
import GoStubs.Project.Basic
import GoStubs.Proofs.Except

/-!
# Loading a project

A project is loaded if its settings are accepted and its manifest declares a module.  The check of
settings has several parts in a fixed order, and it finds no problem if none of the parts does.
-/

namespace GoStubs

namespace Settings

variable {settings : Settings}

/-- What the check asks of settings. -/
structure IsAccepted (settings : Settings) : Prop where
  not_blank : ∀ key, Text.trim (settings.get key) ≠ []
  scanDir : (Path.mk settings.scanDir).staysInside
  outputDir : (Path.mk settings.outputDir).staysInside
  targetFile : '/' ∉ settings.targetFile ∧ '\\' ∉ settings.targetFile
  manifest : '/' ∉ settings.manifest ∧ '\\' ∉ settings.manifest
  fileExtension : settings.fileExtension.head? ≠ some '.'

theorem Key.mem_all (key : Key) : key ∈ all := by cases key <;> decide

theorem problem?_eq_none_iff : settings.problem? = none ↔ settings.IsAccepted := by
  simp only [problem?, Option.orElse_eq_none, Option.map_eq_none_iff, List.find?_eq_none,
    List.forall_mem_cons]
  constructor
  · rintro ⟨hblank, ⟨hscan, hout, -⟩, ⟨htarget, hmanifest, -⟩, hextension⟩
    refine ⟨?_, ?_, ?_, ?_, ?_, ?_⟩
    · intro key
      simpa using hblank key key.mem_all
    · simpa [get] using hscan
    · simpa [get] using hout
    · simpa [get] using htarget
    · simpa [get] using hmanifest
    · simpa using hextension
  · intro h
    refine ⟨?_, ⟨?_, ?_, by simp⟩, ⟨?_, ?_, by simp⟩, ?_⟩
    · intro key _
      simpa using h.not_blank key
    · simpa [get] using h.scanDir
    · simpa [get] using h.outputDir
    · simpa [get] using h.targetFile
    · simpa [get] using h.manifest
    · simpa using h.fileExtension

theorem check_eq_ok_iff : settings.check = .ok () ↔ settings.IsAccepted := by
  rw [← problem?_eq_none_iff, check]
  cases settings.problem? <;> simp

end Settings

variable {disk : Disk}

theorem Manifest.moduleName_eq_ok_iff {path : Path} {name : Text} :
    moduleName disk path = .ok name ↔
      ∃ content, disk.read path = .ok content ∧ moduleOfContent content = .ok (some name) := by
  rw [← Except.bind_eq_ok_iff, moduleName]
  rcases disk.read path >>= moduleOfContent with error | _ | found <;> simp

theorem Project.load_eq_ok_iff {root : Path} {settings : Settings} {project : Project} :
    load disk root settings = .ok project ↔
      settings.check = .ok () ∧ ∃ name,
        Manifest.moduleName disk (root.join settings.manifest) = .ok name ∧
        project = ⟨root, settings, name⟩ := by
  simp only [load, Except.bind_eq_ok_iff, Except.pure_eq_ok_iff]
  constructor
  · rintro ⟨⟨⟩, hcheck, name, hname, rfl⟩
    exact ⟨hcheck, name, hname, rfl⟩
  · rintro ⟨hcheck, name, hname, rfl⟩
    exact ⟨(), hcheck, name, hname, rfl⟩

end GoStubs
