import GoStubs.Proofs.Json.Leaves
import GoStubs.Proofs.Project.Packages
import GoStubs.Proofs.Command.Exits

/-!
# Reports as plain texts

The keys of reports are fixed names, so only newlines keep a report from having one line for each of
its leaves.  The report of a dry run holds the stubs themselves, which are texts of many lines.
-/

namespace GoStubs

open Json (Route)
open Text (lines)

namespace Report

variable {α : Type} {key : Text} {stub : α → Json}

/-- A report without newlines is one line for each leaf. -/
theorem lines_format_jsonWith_iff (hkey : key ≠ []) (colour : Bool) (report : Report α) :
    lines (OutputFormat.text.format colour (report.jsonWith key stub)) =
        (report.jsonWith key stub).sorted.routes.map Route.line ↔
      ∀ text ∈ (report.jsonWith key stub).texts, '\n' ∉ text := by
  apply Json.lines_format_object_iff
  simp [Json.keys, hkey.symm]

theorem content_mem_texts {report : Report RenderedStub} {stub : RenderedStub}
    (h : stub ∈ report.stubs) : stub.content ∈ report.renderedJson.texts := by
  have hstub : stub.content ∈ stub.json.texts :=
    Json.mem_fieldTexts.2 ⟨_, List.mem_append_right _ List.mem_cons_self,
      .inr List.mem_cons_self⟩
  have hstubs : stub.content ∈ Json.itemTexts (report.stubs.map RenderedStub.json) :=
    Json.mem_itemTexts.2 ⟨stub.json, List.mem_map_of_mem h, hstub⟩
  exact Json.mem_fieldTexts.2
    ⟨_, List.mem_cons_of_mem _ List.mem_cons_self, .inr hstubs⟩

end Report

namespace Project

variable {project : Project} {disk : Disk} {policy : Policy} {file : InterfaceFile}

theorem newline_mem_content {stub : RenderedStub} (h : project.render disk file = .ok stub) :
    '\n' ∈ stub.content := by
  simp only [render, Except.bind_eq_ok_iff, Except.pure_eq_ok_iff, content_of_plan,
    Except.ok.injEq] at h
  obtain ⟨plan, -, content, rfl, rfl⟩ := h
  exact List.mem_append_left _ (List.mem_flatMap.2
    ⟨_, List.mem_append_right _ List.mem_cons_self, List.mem_concat_self⟩)

/-- The plain report of a dry run that renders stubs never has one line for each leaf. -/
theorem length_lines_dryRun_ne {report : Report RenderedStub}
    (h : project.dryRun policy disk = .ok report) (hs : report.stubs ≠ []) (colour : Bool) :
    (lines (OutputFormat.text.format colour report.renderedJson)).length ≠
      report.renderedJson.sorted.routes.length := by
  rcases hscan : project.scan disk with fault | files
  · simp [dryRun, hscan, bind, Except.bind] at h
  rw [dryRun_eq hscan] at h
  rcases hp : process project.renderStep policy files disk with ⟨fault | ⟨stubs, failed⟩, after⟩
  · simp [hp, Except.map] at h
  simp only [hp, Except.map, Except.ok.injEq] at h
  subst h
  obtain ⟨stub, hstub⟩ := List.exists_mem_of_ne_nil _ hs
  obtain ⟨before, later, rfl⟩ : ∃ before later, stubs = before ++ stub :: later :=
    List.append_of_mem hstub
  obtain ⟨first, file, rest, earlier, middle, missed, more, -, -, hstep, -⟩ :=
    (completes_of_process hp).split
  have hrender : project.render earlier file = .ok stub := congrArg Prod.fst hstep
  intro hlength
  exact (Json.length_lines_format_iff colour _).1 hlength _ (Report.content_mem_texts hstub)
    (newline_mem_content hrender)

end Project

end GoStubs
