import GoStubs.Text.Basic

/-!
# Texts made of lines

A text whose lines all end in a newline has these lines and an empty one behind
them.
-/

namespace GoStubs.Text

variable {a : List Text}

/-- The text of some lines, each with a newline at its end. -/
def unlines (lines : List Text) : Text := lines.flatMap (· ++ ['\n'])

theorem unlines_append (a b : List Text) : unlines (a ++ b) = unlines a ++ unlines b :=
  List.flatMap_append

theorem getLast?_unlines (h : a ≠ []) : (unlines a).getLast? = some '\n' := by
  obtain ⟨front, last, rfl⟩ := (List.eq_nil_or_concat a).resolve_left h
  rw [List.concat_eq_append, unlines_append]
  simp [unlines]

theorem head?_toList {literal : String} {c : Char} {text : Text}
    (h : literal = String.ofList (c :: text)) : literal.toList.head? = some c := by
  rw [h, String.toList_ofList]
  rfl

theorem not_mem_toList {literal : String} {text : Text} {c : Char}
    (h : literal = String.ofList text) (hc : c ∉ text) : c ∉ literal.toList := by
  rw [h, String.toList_ofList]
  exact hc

theorem lines_of_not_mem {line : Text} (h : '\n' ∉ line) : lines line = [line] := by
  apply split_of_not_cut
  intro c hc
  apply beq_eq_false_iff_ne.2
  rintro rfl
  exact h hc

theorem lines_append_newline (first rest : Text) :
    lines (first ++ '\n' :: rest) = lines first ++ lines rest :=
  split_append_cons (by rfl) first rest

theorem lines_unlines_append (a : List Text) (text : Text) :
    lines (unlines a ++ text) = a.flatMap lines ++ lines text := by
  induction a with
  | nil => rfl
  | cons line rest ih =>
      have htext : unlines (line :: rest) ++ text = line ++ '\n' :: (unlines rest ++ text) := by
        rw [unlines, List.flatMap_cons]
        simp only [List.append_assoc, List.singleton_append]
        rfl
      rw [htext, lines_append_newline, ih, List.flatMap_cons, List.append_assoc]

theorem flatMap_lines (h : ∀ line ∈ a, '\n' ∉ line) : a.flatMap lines = a := by
  induction a with
  | nil => rfl
  | cons line rest ih =>
      obtain ⟨hline, hrest⟩ := List.forall_mem_cons.1 h
      rw [List.flatMap_cons, lines_of_not_mem hline, ih hrest]
      rfl

theorem lines_unlines (h : ∀ line ∈ a, '\n' ∉ line) : lines (unlines a) = a ++ [[]] := by
  have hlines := lines_unlines_append a []
  rwa [List.append_nil, flatMap_lines h] at hlines

/-- Texts that are put together with newlines keep their lines. -/
theorem lines_intercalate (h : a ≠ []) : lines (['\n'].intercalate a) = a.flatMap lines := by
  induction a with
  | nil => exact absurd rfl h
  | cons text rest ih =>
      cases rest with
      | nil => rw [List.intercalate_singleton, List.flatMap_singleton]
      | cons next rest =>
          rw [List.intercalate_cons_cons, List.append_assoc, List.singleton_append,
            lines_append_newline, List.flatMap_cons, ih (List.cons_ne_nil _ _)]

theorem length_lines_pos (text : Text) : 0 < (lines text).length :=
  List.length_pos_iff.2 (split_ne_nil _ text)

theorem length_lines_eq_one_iff {text : Text} : (lines text).length = 1 ↔ '\n' ∉ text := by
  constructor
  · intro h hm
    obtain ⟨first, rest, rfl⟩ := List.append_of_mem hm
    rw [lines_append_newline, List.length_append] at h
    have hfirst := length_lines_pos first
    have hrest := length_lines_pos rest
    omega
  · intro h
    rw [lines_of_not_mem h]
    rfl

theorem length_le_length_flatMap_lines (a : List Text) : a.length ≤ (a.flatMap lines).length := by
  induction a with
  | nil => exact Nat.le_refl _
  | cons text rest ih =>
      have htext := length_lines_pos text
      rw [List.flatMap_cons, List.length_append, List.length_cons]
      omega

/-- Texts have as many lines as there are texts if and only if each of them is a line. -/
theorem length_flatMap_lines_iff :
    (a.flatMap lines).length = a.length ↔ ∀ text ∈ a, '\n' ∉ text := by
  induction a with
  | nil => exact iff_of_true rfl (List.forall_mem_nil _)
  | cons text rest ih =>
      have htext := length_lines_pos text
      have hrest := length_le_length_flatMap_lines rest
      rw [List.forall_mem_cons, ← ih, ← length_lines_eq_one_iff, List.flatMap_cons,
        List.length_append, List.length_cons]
      omega

end GoStubs.Text
