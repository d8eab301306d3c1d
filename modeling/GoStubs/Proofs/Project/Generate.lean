import Mathlib.Control.Monad.Basic
import GoStubs.Project.Write
import GoStubs.Proofs.Disk.Growth
import GoStubs.Proofs.Stub.Filling

/-!
# Writing what would be rendered

A stub is written in two steps, and rendered as one text.  The file that is
written holds the rendered text, whatever was there before.  If there is nothing
to render, nothing is written, and what else can go wrong concerns the output
path or the directory that it lies in.
-/

namespace GoStubs

open Text (Bytes)

namespace Stub

variable {disk : Disk} {path : Path}

/-- A fault of the file system at a path or at its parent. -/
def IsOutputFault (path : Path) (fault : Fault) : Prop :=
  ∃ error, fault = .io path (.disk error) ∨
    ∃ parent, path.parent? = some parent ∧ fault = .io parent (.disk error)

theorem grows_makeParent (disk : Disk) (path : Path) :
    Disk.Grows (fun _ => False) disk (makeParent disk path).2 := by
  unfold makeParent
  cases path.parent? with
  | none => exact Disk.Grows.refl disk
  | some parent => exact Disk.grows_makeDirectories disk parent

theorem isOutputFault_of_makeParent {fault : Fault}
    (h : (makeParent disk path).1 = .error fault) : IsOutputFault path fault := by
  unfold makeParent at h
  cases hp : path.parent? with
  | none => simp [hp] at h
  | some parent =>
      simp only [hp] at h
      cases hm : (disk.makeDirectories parent).1 with
      | ok made => simp [hm, Except.mapError] at h
      | error error =>
          simp only [hm, Except.mapError, Except.error.injEq] at h
          exact ⟨error, .inr ⟨parent, hp, h.symm⟩⟩

/-- The base takes the place of what was at the path.  Before an error only directories are
made. -/
theorem writeBase_cases (disk : Disk) (path : Path) (base : Text) :
    (∃ fault after, writeBase disk path base = (.error fault, after) ∧
      IsOutputFault path fault ∧ Disk.Grows (fun _ => False) disk after) ∨
    ∃ location after, writeBase disk path base = (.ok (), after) ∧
      after.walk path = .ok ⟨location, false⟩ ∧
      after.find? location = some (.file (Text.encode base)) ∧
      Disk.Grows (· = location) disk after := by
  have hgrows := grows_makeParent disk path
  rcases hm : makeParent disk path with ⟨fault | _, made⟩
  · left
    refine ⟨fault, made, by simp [writeBase, hm], ?_, by simpa [hm] using hgrows⟩
    exact isOutputFault_of_makeParent (by rw [hm])
  rw [hm] at hgrows
  cases hw : made.write path (Text.encode base) with
  | error error =>
      left
      exact ⟨.io path (.disk error), made, by simp [writeBase, hm, hw], ⟨error, .inl rfl⟩, hgrows⟩
  | ok after =>
      right
      obtain ⟨location, hwalk, hn, rfl⟩ := Disk.write_eq_ok_iff.1 hw
      have ha := (Disk.accepts_of_walk hwalk).resolve_left hn
      have hput := ha.grows_put_file (Text.encode base)
      have hfile : (made.put location (.file (Text.encode base))).find? location =
          some (.file (Text.encode base)) := by
        rw [Disk.find?_put ha, if_pos rfl]
      refine ⟨location, _, by simp [writeBase, hm, hw], ?_, hfile, ?_⟩
      · exact hput.walk hwalk (.inr ⟨_, hfile⟩)
      · exact (hgrows.mono fun _ h => h.elim).trans hput

/-- Wrappers can be added to a file that is there. -/
theorem append_of_find?_file {location : Location} {before : Bytes} (wrappers : Text)
    (hw : disk.walk path = .ok ⟨location, false⟩)
    (hf : disk.find? location = some (.file before)) :
    ∃ after, append disk path wrappers = (.ok (), after) ∧
      after.walk path = .ok ⟨location, false⟩ ∧
      after.find? location = some (.file (before ++ Text.encode wrappers)) ∧
      Disk.Grows (· = location) disk after := by
  have happend : disk.append path (Text.encode wrappers) =
      .ok (disk.put location (.file (before ++ Text.encode wrappers))) :=
    Disk.append_eq_ok_iff.2 ⟨location, before, hw, hf, rfl⟩
  have ha := (Disk.accepts_of_walk hw).resolve_left (by simp [hf])
  have hput := ha.grows_put_file (before ++ Text.encode wrappers)
  have hfile := Disk.find?_put ha (.file (before ++ Text.encode wrappers)) location
  rw [if_pos rfl] at hfile
  exact ⟨_, by simp [append, happend], hput.walk hw (.inr ⟨_, hfile⟩), hfile, hput⟩

end Stub

namespace Plan

/-- Rendering a plan gives the base and the wrappers, and never fails. -/
theorem exists_content (plan : Plan) (settings : Settings) :
    ∃ base wrappers, plan.base settings = .ok base ∧ plan.wrappers = .ok wrappers ∧
      plan.content settings = .ok (base ++ wrappers) := by
  obtain ⟨base, hb⟩ := Stub.exists_base settings plan.package plan.service.name plan.imports
  obtain ⟨wrappers, hw⟩ := Stub.exists_wrappers plan.service.name plan.methods
  have hbase : plan.base settings = .ok base := hb
  have hwrappers : plan.wrappers = .ok wrappers := hw
  refine ⟨base, wrappers, hbase, hwrappers, ?_⟩
  simp [content, hbase, hwrappers, bind, Except.bind, pure, Except.pure]

/-- Writing a plan either leaves the files as they are, with a fault at the output, or puts what
the plan renders to at the output path. -/
theorem write_cases (plan : Plan) (settings : Settings) (disk : Disk) :
    (∃ fault after, plan.write settings disk = (.error fault, after) ∧
      Stub.IsOutputFault plan.output fault ∧ Disk.Grows (fun _ => False) disk after) ∨
    ∃ content location after, plan.content settings = .ok content ∧
      plan.write settings disk = (.ok (), after) ∧
      after.walk plan.output = .ok ⟨location, false⟩ ∧
      after.find? location = some (.file (Text.encode content)) ∧
      Disk.Grows (· = location) disk after := by
  obtain ⟨base, wrappers, hb, hw, hc⟩ := plan.exists_content settings
  rcases Stub.writeBase_cases disk plan.output base with
    ⟨fault, made, hwrite, hfault, hgrows⟩ | ⟨location, made, hwrite, hwalk, hfile, hgrows⟩
  · left
    exact ⟨fault, made, by simp [write, hb, hwrite], hfault, hgrows⟩
  · right
    obtain ⟨after, happend, hagain, hlast, hmore⟩ :=
      Stub.append_of_find?_file wrappers hwalk hfile
    refine ⟨base ++ wrappers, location, after, hc, ?_, hagain, ?_, hgrows.trans hmore⟩
    · simp [write, hb, hw, hwrite, happend]
    · rw [hlast, Text.encode_append]

end Plan

/-- The blank disk with texts at some paths, and with the directories that they lie in. -/
def Disk.ofFiles (files : List (String × String)) : Disk :=
  files.foldl (fun disk file => (Stub.writeBase disk ⟨file.1.toList⟩ file.2.toList).2) .blank

namespace Project

/-- What generating a stub comes to, next to what rendering it comes to. -/
theorem generate_cases (project : Project) (disk : Disk) (file : InterfaceFile) :
    (∃ fault, project.render disk file = .error fault ∧
      project.generate disk file = (.error fault, disk)) ∨
    ∃ rendered, project.render disk file = .ok rendered ∧
      ((∃ fault after, project.generate disk file = (.error fault, after) ∧
        Stub.IsOutputFault rendered.output fault ∧ Disk.Grows (fun _ => False) disk after) ∨
      ∃ location after, project.generate disk file = (.ok rendered.toGeneratedStub, after) ∧
        after.walk rendered.output = .ok ⟨location, false⟩ ∧
        after.find? location = some (.file (Text.encode rendered.content)) ∧
        Disk.Grows (· = location) disk after) := by
  cases hp : project.plan disk file with
  | error fault =>
      left
      exact ⟨fault, by simp [render, hp, bind, Except.bind], by simp [generate, hp]⟩
  | ok plan =>
      right
      obtain ⟨base, wrappers, -, -, hc⟩ := plan.exists_content project.settings
      refine ⟨{ plan.summary with content := base ++ wrappers }, ?_, ?_⟩
      · simp [render, hp, hc, bind, Except.bind, pure, Except.pure]
      rcases plan.write_cases project.settings disk with
        ⟨fault, after, hw, hfault, hgrows⟩ | ⟨content, location, after, hcontent, hw, hrest⟩
      · left
        exact ⟨fault, after, by simp [generate, hp, hw], hfault, hgrows⟩
      · right
        rw [hc, Except.ok.injEq] at hcontent
        subst hcontent
        exact ⟨location, after, by simp [generate, hp, hw], hrest⟩

/-- Generating a stub does what rendering it promises.  If there is nothing to render, the fault is
the same and the disk stays as it is.  Otherwise the stub that is reported is the rendered one and
its file holds the rendered text, or the fault is one of the file system at the output path or at
its parent. -/
theorem generate_refines_render (project : Project) (disk : Disk) (file : InterfaceFile) :
    (∀ fault, project.render disk file = .error fault →
      project.generate disk file = (.error fault, disk)) ∧
    (∀ rendered stub after, project.render disk file = .ok rendered →
      project.generate disk file = (.ok stub, after) →
        stub = rendered.toGeneratedStub ∧
          after.read stub.output = .ok (Text.encode rendered.content)) ∧
    ∀ rendered fault after, project.render disk file = .ok rendered →
      project.generate disk file = (.error fault, after) →
        Stub.IsOutputFault rendered.output fault := by
  rcases project.generate_cases disk file with
    ⟨fault, hr, hg⟩ | ⟨rendered, hr, ⟨fault, after, hg, hfault, -⟩ |
      ⟨location, after, hg, hwalk, hfile, -⟩⟩
  · simp [hr, hg]
  · refine ⟨by simp [hr], by simp [hg], ?_⟩
    intro other found last ho hf
    rw [hr, Except.ok.injEq] at ho
    rw [hg, Prod.mk.injEq, Except.error.injEq] at hf
    rw [← ho, ← hf.1]
    exact hfault
  · refine ⟨by simp [hr], ?_, by simp [hg]⟩
    intro other stub last ho hs
    rw [hr, Except.ok.injEq] at ho
    rw [hg, Prod.mk.injEq, Except.ok.injEq] at hs
    rw [← ho, ← hs.1, ← hs.2]
    exact ⟨rfl, Disk.read_eq_ok_iff.2 ⟨location, hwalk, hfile⟩⟩

def sample : Project where
  root := ⟨".".toList⟩
  settings := { Settings.standard with
    scanDir := "m".toList, targetFile := "c.go".toList, outputDir := "o".toList }
  moduleName := "m".toList

/-- An interface file, an older stub, and a directory in the way of another stub. -/
def sampleDisk : Disk :=
  .ofFiles [("c.go", "package p\ntype Client interface\x7b\nF(r *R) (*S, error)\n\x7d"),
    ("o/b/generated.p.go", "older"), ("o/d/generated.p.go/x", "")]

/-- A missing interface file, a stub that is written over an older one, and a stub with a directory
in its way. -/
theorem generate_refines_render_sample :
    (∃ fault, sample.render sampleDisk ⟨['b'], ⟨"./b.go".toList⟩⟩ = .error fault ∧
      sample.generate sampleDisk ⟨['b'], ⟨"./b.go".toList⟩⟩ = (.error fault, sampleDisk)) ∧
    (∃ rendered after, sample.render sampleDisk ⟨['b'], ⟨"./c.go".toList⟩⟩ = .ok rendered ∧
      sample.generate sampleDisk ⟨['b'], ⟨"./c.go".toList⟩⟩ =
        (.ok rendered.toGeneratedStub, after) ∧
      after.read rendered.output = .ok (Text.encode rendered.content)) ∧
    ∃ rendered fault after, sample.render sampleDisk ⟨['d'], ⟨"./c.go".toList⟩⟩ = .ok rendered ∧
      sample.generate sampleDisk ⟨['d'], ⟨"./c.go".toList⟩⟩ = (.error fault, after) ∧
      Stub.IsOutputFault rendered.output fault := by
  refine ⟨?_, ?_, ?_⟩
  · have hr : sample.render sampleDisk ⟨['b'], ⟨"./b.go".toList⟩⟩ =
        .error (.io ⟨"./b.go".toList⟩ (.disk .notFound)) := by decide +kernel
    exact ⟨_, hr, (generate_refines_render sample sampleDisk _).1 _ hr⟩
  · have hg : (sample.generate sampleDisk ⟨['b'], ⟨"./c.go".toList⟩⟩).1.toBool := by decide +kernel
    rcases hafter : sample.generate sampleDisk ⟨['b'], ⟨"./c.go".toList⟩⟩ with ⟨_ | stub, after⟩
    · rw [hafter] at hg
      cases hg
    have hr : (sample.render sampleDisk ⟨['b'], ⟨"./c.go".toList⟩⟩).toBool := by decide +kernel
    rcases hrendered : sample.render sampleDisk ⟨['b'], ⟨"./c.go".toList⟩⟩ with _ | rendered
    · rw [hrendered] at hr
      cases hr
    obtain ⟨rfl, hread⟩ :=
      (generate_refines_render sample sampleDisk _).2.1 _ _ _ hrendered hafter
    exact ⟨rendered, after, rfl, rfl, hread⟩
  · have hg : (sample.generate sampleDisk ⟨['d'], ⟨"./c.go".toList⟩⟩).1.toBool = false := by
      decide +kernel
    rcases hafter : sample.generate sampleDisk ⟨['d'], ⟨"./c.go".toList⟩⟩ with ⟨fault | _, after⟩
    · have hr : (sample.render sampleDisk ⟨['d'], ⟨"./c.go".toList⟩⟩).toBool := by decide +kernel
      rcases hrendered : sample.render sampleDisk ⟨['d'], ⟨"./c.go".toList⟩⟩ with _ | rendered
      · rw [hrendered] at hr
        cases hr
      exact ⟨rendered, fault, after, rfl, rfl,
        (generate_refines_render sample sampleDisk _).2.2 _ _ _ hrendered hafter⟩
    · rw [hafter] at hg
      cases hg

end Project

end GoStubs
