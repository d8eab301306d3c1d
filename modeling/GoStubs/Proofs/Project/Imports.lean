import GoStubs.Proofs.Project.Manifest
import GoStubs.Proofs.Project.Packages

/-!
# The imports of a stub

The imports of a plan are literals that stand in the interface file, and the import of its types,
which is made up of the name of the module and names of directories.  Each has quotes at its ends.
A literal has none inside and ends on its line; nothing makes sure of that for the import of the
types, since quotes may stand inside the name of a module, and quotes and newlines in the names of
directories.
-/

namespace GoStubs

/-- Whether a text stands between double quotes, with no other one in it, on one line. -/
def IsLiteral (text : Text) : Prop := ∃ inner, text = quoted inner ∧ '"' ∉ inner ∧ '\n' ∉ inner

variable {text inner : Text}

theorem isLiteral_quoted_iff : IsLiteral (quoted inner) ↔ '"' ∉ inner ∧ '\n' ∉ inner := by
  constructor
  · rintro ⟨other, h, hother⟩
    obtain rfl : inner = other := by simpa [quoted] using h
    exact hother
  · exact fun h => ⟨inner, rfl, h⟩

theorem mem_withImport {imports : List Text} {more : Text} :
    text ∈ withImport imports more ↔ text ∈ imports ∨ text = more := by
  rw [withImport]
  split
  case isTrue h =>
    refine ⟨.inl, ?_⟩
    rintro (hm | rfl)
    · exact hm
    · exact List.contains_iff_mem.1 h
  case isFalse => rw [List.mem_append, List.mem_singleton]

namespace Interface

variable {marker content : Text} {found : Interface}

/-- Whether a literal that is being read, with its characters reversed, can still become one. -/
def IsStart (reading : Text) : Prop :=
  ∃ front, reading = front ++ ['"'] ∧ '"' ∉ front ∧ '\n' ∉ front

theorem isLiteral_of_mem_literalsFrom {state : Option Text}
    (hs : ∀ reading ∈ state, IsStart reading) (h : text ∈ literalsFrom state content) :
    IsLiteral text := by
  induction content generalizing state with
  | nil => simp [literalsFrom] at h
  | cons c rest ih =>
      cases state with
      | none =>
          refine ih ?_ h
          intro reading hr
          split at hr
          case isTrue hc =>
            obtain rfl : [c] = reading := by simpa using hr
            exact ⟨[], by rw [hc]; rfl, List.not_mem_nil, List.not_mem_nil⟩
          case isFalse => cases hr
      | some reading =>
          obtain ⟨front, rfl, hquote, hbreak⟩ := hs reading rfl
          -- A quote ends the literal, a newline gives it up, any other character is part of it.
          rw [literalsFrom] at h
          split at h
          case isTrue hc =>
            rcases List.mem_cons.1 h with rfl | h
            · refine ⟨front.reverse, ?_, by simpa using hquote, by simpa using hbreak⟩
              simp [hc, quoted]
            · exact ih (by simp) h
          case isFalse hc =>
            refine ih ?_ h
            intro next hn
            split at hn
            case isTrue => cases hn
            case isFalse hd =>
              obtain rfl : c :: (front ++ ['"']) = next := by simpa using hn
              exact ⟨c :: front, rfl, by simp [hquote, Ne.symm hc], by simp [hbreak, Ne.symm hd]⟩

theorem isLiteral_of_mem_findImports (h : text ∈ findImports marker content) : IsLiteral text := by
  rw [findImports, List.mem_eraseDups, List.mem_filter] at h
  exact isLiteral_of_mem_literalsFrom (by simp) h.1

theorem imports_of_ofContent (h : ofContent marker content = .ok found) :
    found.imports = findImports marker content := by
  simp only [ofContent, Except.bind_eq_ok_iff, Except.pure_eq_ok_iff] at h
  obtain ⟨service, -, methods, -, rfl⟩ := h
  rfl

end Interface

/-! ### The import of the types -/

/-- The directories that lead to the types of an interface file, of the components that lead to the
file. -/
def typesDirectories (components : List Path.Component) : List Text :=
  (components.dropLast.filterMap Path.Component.name?).dropLast

theorem typesImport_eq_ok_iff {root file : Path} {moduleName types : Text} :
    typesImport root moduleName file = .ok types ↔
      ∃ components, root.below? file = some components ∧
        types = trimSlashes moduleName ++ (typesDirectories components).flatMap ('/' :: ·) := by
  unfold typesImport
  cases root.below? file <;> simp [typesDirectories, eq_comm]

theorem mem_trimSlashes {c : Char} (hc : c ≠ '/') : c ∈ trimSlashes text ↔ c ∈ text := by
  refine ⟨fun h => (Text.dropEndWhile_prefix _ _).subset h, fun h => ?_⟩
  obtain ⟨slashes, hslashes, htext⟩ := Text.exists_append_dropEndWhile (· == '/') text
  rw [htext] at h
  refine (List.mem_append.1 h).resolve_right fun hm => hc ?_
  simpa using hslashes c hm

theorem mem_typesImport {c : Char} (hc : c ≠ '/') {moduleName : Text} {directories : List Text} :
    c ∈ trimSlashes moduleName ++ directories.flatMap ('/' :: ·) ↔
      c ∈ moduleName ∨ ∃ name ∈ directories, c ∈ name := by
  rw [List.mem_append, mem_trimSlashes hc, List.mem_flatMap]
  simp [hc]

namespace Project

variable {project : Project} {disk : Disk} {file : InterfaceFile} {plan : Plan}

/-- The imports of a plan: literals, and the import of the types. -/
theorem exists_types_of_plan (h : project.plan disk file = .ok plan) :
    ∃ types, typesImport project.root project.moduleName file.path = .ok types ∧
      quoted types ∈ plan.imports ∧
        ∀ text ∈ plan.imports, IsLiteral text ∨ text = quoted types := by
  obtain ⟨-, content, found, types, -, hfound, htypes, rfl⟩ := plan_eq_ok_iff.1 h
  refine ⟨types, htypes, mem_withImport.2 (.inr rfl), fun text hm => ?_⟩
  refine (mem_withImport.1 hm).imp_left fun hm => ?_
  rw [Interface.imports_of_ofContent hfound] at hm
  exact Interface.isLiteral_of_mem_findImports hm

/-- A planned stub is rendered, and its lines are those of the plan. -/
theorem exists_lines_of_plan (h : project.plan disk file = .ok plan) :
    ∃ rendered rest, project.render disk file = .ok rendered ∧
      Text.lines rendered.content =
        (Stub.headerLines project.settings plan.package ++
          Stub.importLines plan.imports).flatMap Text.lines ++ ")".toList :: rest := by
  have hrender : project.render disk file = .ok { plan.summary with
      content := Stub.stubText project.settings plan.package plan.service.name plan.imports
        plan.methods } := by
    rw [render, h]
    simp [content_of_plan, bind, Except.bind, pure, Except.pure]
  obtain ⟨-, content, found, types, -, hfound, -, rfl⟩ := plan_eq_ok_iff.1 h
  have hlines := Stub.lines_stubText project.settings file.group
    (withImport found.imports (quoted types)) (Interface.not_mem_service hfound)
    (Interface.isTidy_of_ofContent hfound)
  exact ⟨_, _, hrender, hlines⟩

/-- Where no import has a newline, the import block has one line for each. -/
theorem flatMap_lines_importLines {imports : List Text} (h : ∀ text ∈ imports, IsLiteral text) :
    (Stub.importLines imports).flatMap Text.lines = Stub.importLines imports := by
  apply Text.flatMap_lines
  intro line hm
  obtain ⟨text, htext, rfl⟩ := List.mem_map.1 hm
  obtain ⟨inner, rfl, -, hbreak⟩ := h text htext
  simpa [quoted] using hbreak

/-- The imports of a planned stub have quotes at their ends, and only the import of the types may
have more of them or a newline.  It has none, and so all imports are literals, if and only if there
is no quote inside the name of the module, and neither a quote nor a newline in the names of the
directories that lead to the types.  Then the lines of the stub between the import of the client and
the closing parenthesis are one for each import. -/
theorem imports_of_plan {before : Disk} {root : Path} {settings : Settings}
    (hload : load before root settings = .ok project) (hplan : project.plan disk file = .ok plan) :
    ∃ components types, project.root.below? file.path = some components ∧
      typesImport project.root project.moduleName file.path = .ok types ∧
      (∀ text ∈ plan.imports, (∃ inner, text = quoted inner) ∧
        (text ≠ quoted types → IsLiteral text)) ∧
      ((∀ text ∈ plan.imports, IsLiteral text) ↔ '"' ∉ project.moduleName ∧
        ∀ name ∈ typesDirectories components, '"' ∉ name ∧ '\n' ∉ name) ∧
      ((∀ text ∈ plan.imports, IsLiteral text) → ∃ rendered rest,
        project.render disk file = .ok rendered ∧ Text.lines rendered.content =
          (Stub.headerLines project.settings plan.package).flatMap Text.lines ++
            Stub.importLines plan.imports ++ ")".toList :: rest) := by
  obtain ⟨types, htypes, hmem, himports⟩ := exists_types_of_plan hplan
  obtain ⟨components, hbelow, htext⟩ := typesImport_eq_ok_iff.1 htypes
  refine ⟨components, types, hbelow, htypes, ?_, ?_, ?_⟩
  · intro text hm
    rcases himports text hm with hliteral | rfl
    · have hquoted : ∃ inner, text = quoted inner := hliteral.imp fun _ h => h.1
      exact ⟨hquoted, fun _ => hliteral⟩
    · exact ⟨⟨types, rfl⟩, fun hne => absurd rfl hne⟩
  · have hall : (∀ text ∈ plan.imports, IsLiteral text) ↔ IsLiteral (quoted types) := by
      refine ⟨fun h => h _ hmem, fun h text hm => ?_⟩
      rcases himports text hm with hliteral | rfl
      · exact hliteral
      · exact h
    have hbreak : '\n' ∉ project.moduleName := fun hm =>
      absurd (Manifest.not_isBlank_of_load hload hm) (by decide)
    rw [hall, isLiteral_quoted_iff, htext, mem_typesImport (by decide), mem_typesImport (by decide)]
    constructor
    · rintro ⟨hquote, hline⟩
      rw [not_or] at hquote hline
      exact ⟨hquote.1, fun name hm => ⟨fun hc => hquote.2 ⟨name, hm, hc⟩,
        fun hc => hline.2 ⟨name, hm, hc⟩⟩⟩
    · rintro ⟨hmodule, hnames⟩
      constructor
      · rintro (hc | ⟨name, hm, hc⟩)
        · exact hmodule hc
        · exact (hnames name hm).1 hc
      · rintro (hc | ⟨name, hm, hc⟩)
        · exact hbreak hc
        · exact (hnames name hm).2 hc
  · intro h
    obtain ⟨rendered, rest, hrender, hlines⟩ := exists_lines_of_plan hplan
    refine ⟨rendered, rest, hrender, ?_⟩
    rw [hlines, List.flatMap_append, flatMap_lines_importLines h]

/-- An interface file with an import of its own. -/
def importingDisk : Disk :=
  .ofFiles [("go.mod", "module m"), ("pkg/model/b/x/client.go",
    "package p\nimport \"m/kitex_gen/x\"\ntype Client interface\x7b\x7d")]

def importingFile : InterfaceFile := ⟨['b'], ⟨"./pkg/model/b/x/client.go".toList⟩⟩

theorem imports_of_plan_sample :
    load importingDisk ⟨['.']⟩ .standard = .ok crowdedSample ∧
      ∃ plan, crowdedSample.plan importingDisk importingFile = .ok plan ∧
        plan.imports = ["\"m/kitex_gen/x\"".toList, "\"m/pkg/model/b\"".toList] ∧
        ∀ text ∈ plan.imports, IsLiteral text := by
  have hload : load importingDisk ⟨['.']⟩ .standard = .ok crowdedSample := by decide +kernel
  have himports : (crowdedSample.plan importingDisk importingFile).map Plan.imports =
      .ok ["\"m/kitex_gen/x\"".toList, "\"m/pkg/model/b\"".toList] := by decide +kernel
  rcases hplan : crowdedSample.plan importingDisk importingFile with _ | plan
  · rw [hplan] at himports
    cases himports
  · rw [hplan] at himports
    refine ⟨hload, plan, rfl, Except.ok.inj himports, ?_⟩
    obtain ⟨components, types, hbelow, -, -, hiff, -⟩ := imports_of_plan hload hplan
    have hcomponents : crowdedSample.root.below? importingFile.path =
        some (["pkg", "model", "b", "x", "client.go"].map fun name => .name name.toList) := by
      decide
    obtain rfl := Option.some.inj (hcomponents.symm.trans hbelow)
    exact hiff.2 (by decide)

/-- A repository where a quote stands in the name of a directory, and a newline in another one. -/
def oddDisk : Disk :=
  .ofFiles [("go.mod", "module m"),
    ("pkg/model/b/c\"d/x/client.go", "package p\ntype Client interface\x7b\x7d"),
    ("pkg/model/b/c\nd/x/client.go", "package q\ntype Client interface\x7b\x7d")]

def oddFiles : List InterfaceFile :=
  [⟨['b'], ⟨"./pkg/model/b/c\nd/x/client.go".toList⟩⟩,
    ⟨['b'], ⟨"./pkg/model/b/c\"d/x/client.go".toList⟩⟩]

/-- Stubs are rendered with imports that are no literals. -/
theorem exists_import_not_literal :
    load oddDisk ⟨['.']⟩ .standard = .ok crowdedSample ∧
      crowdedSample.scan oddDisk = .ok oddFiles ∧
      ∀ file ∈ oddFiles, ∃ plan rendered, crowdedSample.plan oddDisk file = .ok plan ∧
        crowdedSample.render oddDisk file = .ok rendered ∧
        ∃ text ∈ plan.imports, ¬ IsLiteral text := by
  refine ⟨by decide +kernel, by decide +kernel, fun file hm => ?_⟩
  have hplans : ∀ file ∈ oddFiles, (crowdedSample.plan oddDisk file).toBool := by decide +kernel
  have htypes : ∀ file ∈ oddFiles, ∀ types,
      typesImport crowdedSample.root crowdedSample.moduleName file.path = .ok types →
        '"' ∈ types ∨ '\n' ∈ types := by
    intro file hm types ht
    rcases List.mem_cons.1 hm with rfl | hm
    · cases ht
      decide
    · cases List.mem_singleton.1 hm
      cases ht
      decide
  rcases hplan : crowdedSample.plan oddDisk file with _ | plan
  · have hok := hplans file hm
    rw [hplan] at hok
    cases hok
  obtain ⟨rendered, -, hrender, -⟩ := exists_lines_of_plan hplan
  obtain ⟨types, ht, htext, -⟩ := exists_types_of_plan hplan
  refine ⟨plan, rendered, rfl, hrender, quoted types, htext, ?_⟩
  rw [isLiteral_quoted_iff, not_and_or, not_not, not_not]
  exact htypes file hm types ht

end Project

end GoStubs
