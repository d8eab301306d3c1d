import GoStubs.Proofs.Interface.Literals
import GoStubs.Proofs.Project.Imports

/-!
# The order of the imports

A plan has each import once.  The literals of the interface file that have the marker come in the
order of their first places in the file, and the import of the types comes last, unless it is one of
them.
-/

namespace GoStubs

variable {imports : List Text} {text more a b : Text}

theorem withImport_of_mem (h : more ∈ imports) : withImport imports more = imports :=
  if_pos (List.contains_iff_mem.2 h)

theorem withImport_of_not_mem (h : more ∉ imports) : withImport imports more = imports ++ [more] :=
  if_neg fun hc => h (List.contains_iff_mem.1 hc)

theorem nodup_withImport (h : imports.Nodup) (more : Text) : (withImport imports more).Nodup := by
  by_cases hm : more ∈ imports
  · rwa [withImport_of_mem hm]
  · rw [withImport_of_not_mem hm, ← List.concat_eq_append]
    exact h.concat hm

theorem idxOf_withImport (h : a ∈ imports) (more : Text) :
    (withImport imports more).idxOf a = imports.idxOf a := by
  by_cases hm : more ∈ imports
  · rw [withImport_of_mem hm]
  · rw [withImport_of_not_mem hm, List.idxOf_append_of_mem h]

namespace Interface

variable {marker content : Text}

theorem mem_findImports_iff :
    text ∈ findImports marker content ↔
      text ∈ (literals content).filter fun text => marker <:+: text := by
  rw [findImports_eq, List.mem_eraseDups]

theorem nodup_findImports (marker content : Text) : (findImports marker content).Nodup :=
  Text.nodup_eraseDups _

/-- Imports come in the order of their first places in the file. -/
theorem idxOf_findImports_lt_iff (ha : a ∈ findImports marker content)
    (hb : b ∈ findImports marker content) :
    (findImports marker content).idxOf a < (findImports marker content).idxOf b ↔
      (literals content).idxOf a < (literals content).idxOf b := by
  have hmarked {text : Text} (h : text ∈ findImports marker content) :
      decide (marker <:+: text) = true := (List.mem_filter.1 (mem_findImports_iff.1 h)).2
  rw [findImports_eq, Text.idxOf_eraseDups_lt_iff]
  exact Text.idxOf_filter_lt_iff (hmarked ha) (hmarked hb)

end Interface

namespace Project

open Interface (literals)

variable {project : Project} {disk : Disk} {file : InterfaceFile} {plan : Plan}

/-- The imports of a plan are, without repetitions, the literals of the interface file with the
marker, in the order of their first places in the file, and the import of the types.  That is made
up of the name of the module and the directories between the root and the file but the last one, and
it comes behind all literals unless it is one of them. -/
theorem import_order_of_plan (h : project.plan disk file = .ok plan) :
    ∃ content components, disk.readText file.path = .ok content ∧
      project.root.below? file.path = some components ∧
      let types := quoted (trimSlashes project.moduleName ++
        (typesDirectories components).flatMap ('/' :: ·))
      let marked := (literals content).filter fun text => project.settings.importMarker <:+: text
      plan.imports.Nodup ∧ plan.imports.count types = 1 ∧
        (∀ text, text ∈ plan.imports ↔ text ∈ marked ∨ text = types) ∧
        (∀ a ∈ marked, ∀ b ∈ marked, plan.imports.idxOf a < plan.imports.idxOf b ↔
          (literals content).idxOf a < (literals content).idxOf b) ∧
        (types ∉ marked → ∀ text ∈ marked, plan.imports.idxOf text < plan.imports.idxOf types) := by
  obtain ⟨-, content, found, types, hcontent, hfound, htypes, rfl⟩ := plan_eq_ok_iff.1 h
  obtain ⟨components, hbelow, rfl⟩ := typesImport_eq_ok_iff.1 htypes
  refine ⟨content, components, hcontent, hbelow, ?_⟩
  intro types marked
  obtain ⟨service, methods, imports⟩ := found
  obtain rfl : imports = _ := Interface.imports_of_ofContent hfound
  have hmarked {text : Text} :
      text ∈ Interface.findImports project.settings.importMarker content ↔ text ∈ marked :=
    Interface.mem_findImports_iff
  have hnodup := nodup_withImport
    (Interface.nodup_findImports project.settings.importMarker content) types
  refine ⟨hnodup, List.count_eq_one_of_mem hnodup (mem_withImport.2 (.inr rfl)), fun text => ?_,
    fun a ha b hb => ?_, fun hnot text ht => ?_⟩
  · rw [mem_withImport, hmarked]
  · rw [idxOf_withImport (hmarked.2 ha), idxOf_withImport (hmarked.2 hb),
      Interface.idxOf_findImports_lt_iff (hmarked.2 ha) (hmarked.2 hb)]
  · have hlast := mt hmarked.1 hnot
    have hlt := List.idxOf_lt_length_of_mem (hmarked.2 ht)
    rw [idxOf_withImport (hmarked.2 ht), withImport_of_not_mem hlast,
      List.idxOf_append_of_notMem hlast]
    omega

/-- An interface file with three imports, of which the first one comes again. -/
def repeatingText : Text :=
  ("package p\nimport (\n\t\"m/kitex_gen/y\"\n\t\"fmt\"\n\t\"m/kitex_gen/x\"\n" ++
    "\t\"m/kitex_gen/y\"\n)\ntype Client interface\x7b\x7d").toList

def repeatingDisk : Disk :=
  .ofFiles [("go.mod", "module m"), ("pkg/model/b/x/client.go", String.ofList repeatingText)]

theorem import_order_of_plan_sample :
    let first := "\"m/kitex_gen/y\"".toList
    let second := "\"m/kitex_gen/x\"".toList
    let types := "\"m/pkg/model/b\"".toList
    ∃ plan, crowdedSample.plan repeatingDisk importingFile = .ok plan ∧ plan.imports.Nodup ∧
      plan.imports.idxOf first < plan.imports.idxOf second ∧
      plan.imports.idxOf second < plan.imports.idxOf types := by
  intro first second types
  have hok : (crowdedSample.plan repeatingDisk importingFile).toBool := by decide +kernel
  have hread : repeatingDisk.readText importingFile.path = .ok repeatingText := by decide +kernel
  have hliterals : literals repeatingText = [first, "\"fmt\"".toList, second, first] := by
    decide +kernel
  have hbelow : crowdedSample.root.below? importingFile.path =
      some (["pkg", "model", "b", "x", "client.go"].map fun name => .name name.toList) := by decide
  rcases hplan : crowdedSample.plan repeatingDisk importingFile with _ | plan
  · rw [hplan] at hok
    cases hok
  · obtain ⟨content, components, hcontent, hcomponents, hnodup, -, -, horder, hlast⟩ :=
      import_order_of_plan hplan
    obtain rfl := Except.ok.inj (hread.symm.trans hcontent)
    obtain rfl := Option.some.inj (hbelow.symm.trans hcomponents)
    refine ⟨plan, rfl, hnodup, (horder _ ?_ _ ?_).2 ?_, hlast ?_ _ ?_⟩
    all_goals
      rw [hliterals]
      decide +kernel

end Project

end GoStubs
