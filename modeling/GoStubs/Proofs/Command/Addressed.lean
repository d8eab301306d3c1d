import GoStubs.Command.Program
import GoStubs.Proofs.Except
import GoStubs.Proofs.Json.Paths
import GoStubs.Proofs.Project.Policies

/-!
# Results whose leaves are addressed

The keys in the results of commands are fixed names, and paths can be read back between them.  So in
a plain text each leaf of a result has a path of its own.
-/

namespace GoStubs

open Json

theorem GeneratedStub.hasReadableKeys_json (stub : GeneratedStub) : stub.json.HasReadableKeys :=
  hasReadableKeys_record (["source", "output", "service", "function_count"].map String.toList)
    rfl (by decide) (by simp [fields, IsLeaf])

theorem RenderedStub.hasReadableKeys_json (stub : RenderedStub) : stub.json.HasReadableKeys :=
  hasReadableKeys_record
    (["source", "output", "service", "function_count", "content"].map String.toList)
    rfl (by decide) (by simp [GeneratedStub.fields, IsLeaf])

theorem FailedFile.hasReadableKeys_json (file : FailedFile) : file.json.HasReadableKeys :=
  hasReadableKeys_record (["source", "error"].map String.toList) rfl (by decide) (by simp [IsLeaf])

theorem InterfaceFile.hasReadableKeys_json (file : InterfaceFile) : file.json.HasReadableKeys :=
  hasReadableKeys_record (["group", "path"].map String.toList) rfl (by decide) (by simp [IsLeaf])

namespace Report

variable {α : Type}

theorem hasReadableKeys_jsonWith {key : Text} {stub : α → Json} (report : Report α)
    (hkeys : (∀ name ∈ ["module".toList, key, "failed".toList], IsPlainKey name) ∧
      ["module".toList, key, "failed".toList].Nodup)
    (hstub : ∀ a, (stub a).HasReadableKeys) : (report.jsonWith key stub).HasReadableKeys := by
  refine hasReadableKeys_object _ rfl hkeys ?_
  simp only [List.forall_mem_cons]
  refine ⟨hasReadableKeys_of_isLeaf trivial, hasReadableKeys_array ?_, hasReadableKeys_array ?_,
    List.forall_mem_nil _⟩
  · exact List.forall_mem_map.2 fun a _ => hstub a
  · exact List.forall_mem_map.2 fun file _ => file.hasReadableKeys_json

theorem hasReadableKeys_generatedJson (report : Report GeneratedStub) :
    report.generatedJson.HasReadableKeys :=
  report.hasReadableKeys_jsonWith (by decide) GeneratedStub.hasReadableKeys_json

theorem hasReadableKeys_renderedJson (report : Report RenderedStub) :
    report.renderedJson.HasReadableKeys :=
  report.hasReadableKeys_jsonWith (by decide) RenderedStub.hasReadableKeys_json

end Report

namespace Command

variable {output : OutputFormat} {colour : Bool} {root : Path} {config : Option Path} {disk : Disk}
  {library : Library} {ending : Ending}

theorem exists_value_of_runScan (h : runScan output colour root config disk library = .ok ending) :
    ∃ value : Json, value.HasReadableKeys ∧
      ending.printed = output.format colour value ++ ['\n'] := by
  simp only [runScan, Except.bind_eq_ok_iff, Ending.writing_eq_ok_iff] at h
  obtain ⟨-, -, settings, -, files, -, -, rfl⟩ := h
  refine ⟨_, ?_, rfl⟩
  refine hasReadableKeys_object (["scan_dir", "clients"].map String.toList) rfl (by decide) ?_
  rw [List.forall_mem_cons, List.forall_mem_singleton]
  refine ⟨hasReadableKeys_of_isLeaf trivial, hasReadableKeys_array ?_⟩
  exact List.forall_mem_map.2 fun file _ => file.hasReadableKeys_json

theorem exists_value_of_runGenerate {policy : Policy} {dry : Bool}
    (h : (runGenerate output colour root config policy dry disk library).1 = .ok ending) :
    ∃ value : Json, value.HasReadableKeys ∧
      ending.printed = output.format colour value ++ ['\n'] := by
  unfold runGenerate at h
  split at h
  · cases h
  · split at h
    · split at h
      · cases h
      · rename_i report _
        obtain ⟨-, rfl⟩ := Ending.writing_eq_ok_iff.1 h
        exact ⟨_, report.hasReadableKeys_renderedJson, rfl⟩
    · split at h
      · cases h
      · rename_i report _ _
        obtain ⟨-, rfl⟩ := Ending.writing_eq_ok_iff.1 h
        exact ⟨_, report.hasReadableKeys_generatedJson, rfl⟩

/-- A command prints a script or a value in which paths can be read back. -/
theorem exists_value_of_execute {command : Command}
    (h : (command.execute output colour disk library).1 = .ok ending) :
    (∃ shell, command = .completions shell) ∨ ∃ value : Json, value.HasReadableKeys ∧
      ending.printed = output.format colour value ++ ['\n'] := by
  cases command with
  | generate root config policy dry => exact .inr (exists_value_of_runGenerate h)
  | scan root config => exact .inr (exists_value_of_runScan h)
  | completions shell => exact .inl ⟨shell, rfl⟩

end Command

namespace Json

/-- The plain text of a value in which paths can be read back is one entry for each leaf, in order,
and the path of an entry leads to its leaf.  All results of commands are such values. -/
theorem leaves_addressed :
    (∀ value : Json, value.HasReadableKeys → ∀ colour,
      OutputFormat.text.format colour value =
          ['\n'].intercalate
            ((value.sorted.leaves []).map fun (path, leaf) => entryText path leaf) ∧
        value.Addresses (value.sorted.leaves [])) ∧
    ∀ output colour command disk library ending,
      (Command.execute output colour command disk library).1 = .ok ending →
        (∃ shell, command = .completions shell) ∨ ∃ value : Json, value.HasReadableKeys ∧
          ending.printed = output.format colour value ++ ['\n'] :=
  ⟨fun _ hkeys _ => ⟨rfl, addresses_leaves hkeys.1 hkeys.2⟩,
    fun _ _ _ _ _ _ => Command.exists_value_of_execute⟩

/-- Arrays in arrays below a key that comes first in the value and last in its text. -/
def nestedSample : Json :=
  .object [("b".toList, .array [.array [.bool true, .object []], .array []]),
    ("a".toList, .object [("x".toList, .null)])]

theorem hasReadableKeys_nestedSample : nestedSample.HasReadableKeys := by
  have hleaf {value : Json} (h : value.IsLeaf) : value.HasReadableKeys :=
    hasReadableKeys_of_isLeaf h
  refine hasReadableKeys_object (["b", "a"].map String.toList) rfl (by decide) ?_
  rw [List.forall_mem_cons, List.forall_mem_singleton]
  constructor
  · apply hasReadableKeys_array
    rw [List.forall_mem_cons, List.forall_mem_singleton]
    refine ⟨hasReadableKeys_array ?_, hleaf rfl⟩
    rw [List.forall_mem_cons, List.forall_mem_singleton]
    exact ⟨hleaf trivial, hleaf rfl⟩
  · exact hasReadableKeys_record (["x"].map String.toList) rfl (by decide) (by simp [IsLeaf])

theorem sortFields_pair (first second : Json) :
    sortFields [("b".toList, first), ("a".toList, second)] =
      [("a".toList, second), ("b".toList, first)] := by
  have horder : compare 'b' 'a' = .gt := by decide
  simp [sortFields, List.mergeSort, horder]

theorem leaves_addressed_sample :
    nestedSample.Addresses (nestedSample.sorted.leaves []) ∧
      (nestedSample.sorted.leaves []).map Prod.fst =
        ["a.x", "b[0][0]", "b[0][1]", "b[1]"].map String.toList ∧
      ∃ ending,
        (Command.execute .text false (.scan ⟨['.']⟩ none) Project.mixedDisk).1 = .ok ending ∧
        ∃ value : Json, value.HasReadableKeys ∧
          ending.printed = OutputFormat.text.format false value ++ ['\n'] := by
  refine ⟨(leaves_addressed.1 _ hasReadableKeys_nestedSample false).2, ?_, ?_⟩
  · simp only [nestedSample, sorted, sortedItems, sortedFields, sortFields_pair]
    simp only [sortFields, List.mergeSort_singleton, List.mergeSort_nil]
    decide
  · obtain ⟨ending, hending⟩ : ∃ ending,
        (Command.execute .text false (.scan ⟨['.']⟩ none) Project.mixedDisk).1 = .ok ending := by
      simp only [← Except.toOption_eq_some_iff, ← Option.isSome_iff_exists]
      decide +kernel
    refine ⟨ending, hending, (leaves_addressed.2 _ _ _ _ _ _ hending).resolve_left ?_⟩
    rintro ⟨shell, hshell⟩
    cases hshell

end Json

end GoStubs
