import GoStubs.Proofs.Project.Loading
import GoStubs.Proofs.Text.Words

/-!
# Names of modules

A line declares a module if its first word is the keyword, and the name is its second word, less the
quotes at the ends.  So a name has no blanks, but it may have quotes inside.
-/

namespace GoStubs.Manifest

open Text (Bytes isBlank words)

variable {line word name : Text} {c : Char}

/-- The word behind the keyword that a line starts with. -/
def declaredWord? (line : Text) : Option Text :=
  match words line with
  | keyword :: word :: _ => if keyword = "module".toList then some word else none
  | _ => none

/-- A word without the quotes at its ends. -/
def unquoted (word : Text) : Text := Text.dropEndWhile (· == '"') (word.dropWhile (· == '"'))

theorem declaredWord?_eq_some_iff :
    declaredWord? line = some word ↔ ∃ rest, words line = "module".toList :: word :: rest := by
  unfold declaredWord?
  rcases words line with _ | ⟨first, _ | ⟨second, rest⟩⟩
  · simp
  · simp
  · simp only [Option.ite_none_right_eq_some, Option.some.injEq, List.cons.injEq]
    constructor
    · rintro ⟨rfl, rfl⟩
      exact ⟨rest, rfl, rfl, rfl⟩
    · rintro ⟨_, rfl, rfl, -⟩
      exact ⟨rfl, rfl⟩

theorem declaredWord?_of_keyword {rest : Text}
    (h : Text.trimStart line = "module".toList ++ rest) (hr : ∀ c ∈ rest.head?, isBlank c) :
    declaredWord? line = (words rest).head? := by
  have hkeyword : ∀ c ∈ "module".toList, isBlank c = false := by decide
  rw [declaredWord?, ← Text.words_trimStart, h, Text.words_word_append hkeyword (by decide) hr]
  cases words rest with
  | nil => rfl
  | cons word rest => exact if_pos rfl

theorem declaredWord?_of_not_keyword
    (h : ∀ rest, Text.trimStart line = "module".toList ++ rest →
      ∃ c ∈ rest.head?, isBlank c = false) :
    declaredWord? line = none := by
  rcases hword : declaredWord? line with _ | word
  · rfl
  · obtain ⟨more, hwords⟩ := declaredWord?_eq_some_iff.1 hword
    obtain ⟨rest, htrim, hrest⟩ := Text.exists_of_words_eq_cons hwords
    obtain ⟨c, hc, hblank⟩ := h rest htrim
    rw [hrest c hc] at hblank
    cases hblank

/-- Reading a line up to its name comes to looking at its first two words. -/
theorem moduleOfLine?_eq (line : Text) :
    moduleOfLine? line = ((declaredWord? line).map unquoted).filter (! ·.isEmpty) := by
  rw [moduleOfLine?]
  cases hbehind : Text.dropPrefix? "module".toList (Text.trimStart line) with
  | none =>
      rw [declaredWord?_of_not_keyword fun rest hrest => ?_]
      · rfl
      · rw [Text.dropPrefix?_eq_some_iff.2 hrest] at hbehind
        cases hbehind
  | some rest =>
      rw [Text.dropPrefix?_eq_some_iff] at hbehind
      rcases rest with _ | ⟨c, rest⟩
      · rw [declaredWord?_of_keyword hbehind (by simp)]
        rfl
      cases hc : isBlank c with
      | false =>
          rw [declaredWord?_of_not_keyword fun other hother => ?_]
          · simp [hc]
          · obtain rfl := List.append_cancel_left (hbehind.symm.trans hother)
            exact ⟨c, rfl, hc⟩
      | true =>
          rw [declaredWord?_of_keyword hbehind (by simpa using hc), Text.head?_words,
            Text.trimStart_cons_of_isBlank hc]
          simp only [hc, if_true]
          cases hrest : Text.trimStart rest with
          | nil => rfl
          | cons d rest =>
              simp only [List.isEmpty_cons, Bool.false_eq_true, if_false, Option.map_some,
                Option.filter_some]
              change (if (unquoted _).isEmpty then none else some (unquoted _)) = _
              cases (unquoted ((d :: rest).takeWhile (! isBlank ·))).isEmpty <;> rfl

theorem moduleOfLine?_eq_some_iff :
    moduleOfLine? line = some name ↔ name ≠ [] ∧
      ∃ word rest, words line = "module".toList :: word :: rest ∧ unquoted word = name := by
  rw [moduleOfLine?_eq, Option.filter_eq_some_iff, Option.map_eq_some_iff]
  simp only [declaredWord?_eq_some_iff]
  constructor
  · rintro ⟨⟨word, ⟨rest, hwords⟩, hname⟩, hne⟩
    exact ⟨by simpa using hne, word, rest, hwords, hname⟩
  · rintro ⟨hne, word, rest, hwords, hname⟩
    exact ⟨⟨word, ⟨rest, hwords⟩, hname⟩, by simpa using hne⟩

theorem not_isBlank_of_moduleOfLine? (h : moduleOfLine? line = some name) (hc : c ∈ name) :
    isBlank c = false := by
  obtain ⟨-, word, rest, hwords, rfl⟩ := moduleOfLine?_eq_some_iff.1 h
  have hword : word ∈ words line := hwords ▸ List.mem_cons_of_mem _ List.mem_cons_self
  have hbare : c ∈ word.dropWhile (· == '"') := (Text.dropEndWhile_prefix _ _).subset hc
  exact Text.not_isBlank_of_mem_words hword ((List.dropWhile_suffix _).subset hbare)

theorem exists_line_of_moduleOfLines {lines : List Bytes}
    (h : moduleOfLines lines = .ok (some name)) : ∃ line, moduleOfLine? line = some name := by
  induction lines with
  | nil => cases h
  | cons bytes rest ih =>
      cases hd : Text.decode? bytes with
      | none => simp [moduleOfLines, hd] at h
      | some line =>
          cases hl : moduleOfLine? line with
          | none => exact ih (by simpa [moduleOfLines, hd, hl] using h)
          | some found =>
              rw [moduleOfLines, hd] at h
              simp only [hl, Except.ok.injEq, Option.some.injEq] at h
              exact ⟨line, h ▸ hl⟩

/-- The name of a loaded module is on one line and has no blanks. -/
theorem not_isBlank_of_load {disk : Disk} {root : Path} {settings : Settings} {project : Project}
    (h : Project.load disk root settings = .ok project) (hc : c ∈ project.moduleName) :
    isBlank c = false := by
  obtain ⟨-, name, hname, rfl⟩ := Project.load_eq_ok_iff.1 h
  obtain ⟨content, -, hcontent⟩ := moduleName_eq_ok_iff.1 hname
  obtain ⟨line, hline⟩ := exists_line_of_moduleOfLines hcontent
  exact not_isBlank_of_moduleOfLine? hline hc

end GoStubs.Manifest
