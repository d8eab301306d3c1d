import GoStubs.Proofs.Project.Manifest

/-!
# Comments in module declarations

A comment is left out of the name that a line declares if a blank stands between them.  Elsewhere it
is taken for a part of the name, or for the name.
-/

namespace GoStubs

variable {line word : Text}

/-- A text up to its first line comment. -/
def uncommented (line : Text) : Text :=
  match Text.breakAt? "//".toList line with
  | some (front, _) => front
  | none => line

theorem eq_or_exists_uncommented (line : Text) :
    uncommented line = line ∨ ∃ rest, line = uncommented line ++ '/' :: '/' :: rest := by
  rw [uncommented]
  cases hbreak : Text.breakAt? "//".toList line with
  | none => exact .inl rfl
  | some cut =>
      obtain ⟨front, found⟩ := cut
      obtain ⟨rest, rfl⟩ := Text.isPrefix_of_breakAt? hbreak
      exact .inr ⟨rest, (Text.breakAt?_append hbreak).symm⟩

theorem not_infix_uncommented (line : Text) : ¬ "//".toList <:+: uncommented line := by
  rw [uncommented]
  cases hbreak : Text.breakAt? "//".toList line with
  | none => exact Text.breakAt?_eq_none_iff.1 hbreak
  | some cut => exact Text.not_infix_of_breakAt? hbreak (by decide)

namespace Manifest

open Text (isBlank words)

theorem infix_unquoted_iff : "//".toList <:+: unquoted word ↔ "//".toList <:+: word := by
  constructor
  · exact fun h => h.trans ((Text.dropEndWhile_prefix _ _).isInfix.trans
      (List.dropWhile_suffix _).isInfix)
  · rintro ⟨front, back, rfl⟩
    have hdrop := Text.dropWhile_append_cons (p := (· == '"')) (c := '/') (by decide) front
      ('/' :: back)
    have hdropEnd := Text.dropEndWhile_append_cons (p := (· == '"')) (c := '/') (by decide)
    refine ⟨front.dropWhile (· == '"'), Text.dropEndWhile (· == '"') back, ?_⟩
    rw [unquoted, List.append_assoc, List.append_assoc]
    change _ = Text.dropEndWhile _ ((front ++ '/' :: '/' :: back).dropWhile _)
    rw [hdrop, hdropEnd]
    exact congrArg (front.dropWhile (· == '"') ++ '/' :: ·) (hdropEnd [] back).symm

theorem moduleOfLine?_of_commented {rest : List Text}
    (h : words line = "module".toList :: word :: rest) (hm : "//".toList <:+: word) :
    moduleOfLine? line = some (unquoted word) := by
  refine moduleOfLine?_eq_some_iff.2 ⟨?_, word, rest, h, rfl⟩
  intro hnil
  have hinfix := infix_unquoted_iff.2 hm
  rw [hnil, List.infix_nil] at hinfix
  cases hinfix

/-- A comment goes on with the word in front of it, if there is no blank in between. -/
theorem exists_words_commented (hw : ∀ c ∈ word, isBlank c = false) (rest : Text) :
    ∃ more, words (word ++ '/' :: '/' :: rest) =
      (word ++ "//".toList ++ rest.takeWhile (! isBlank ·)) :: more := by
  have hall : ∀ c ∈ word ++ "//".toList ++ rest.takeWhile (! isBlank ·), isBlank c = false :=
    List.forall_mem_append.2 ⟨List.forall_mem_append.2 ⟨hw, by decide⟩,
      fun _ => Text.not_isBlank_of_mem_takeWhile⟩
  have hend : ∀ c ∈ (rest.dropWhile (! isBlank ·)).head?, isBlank c :=
    fun _ => Text.isBlank_of_head?_dropWhile
  have hwords := Text.words_word_append hall (by simp) hend
  rw [List.append_assoc, List.takeWhile_append_dropWhile, List.append_assoc] at hwords
  exact ⟨_, hwords⟩

theorem declaredWord?_of_head_ne {first : Text} {more : List Text} (h : words line = first :: more)
    (hf : first ≠ "module".toList) : declaredWord? line = none := by
  rw [declaredWord?, h]
  cases more with
  | nil => rfl
  | cons second more => exact if_neg hf

/-- A comment changes what a line declares only as a part of the second word. -/
theorem declaredWord?_append_comment (front rest : Text) :
    declaredWord? (front ++ '/' :: '/' :: rest) = declaredWord? front ∨
      ∃ word more, words (front ++ '/' :: '/' :: rest) = "module".toList :: word :: more ∧
        "//".toList <:+: word := by
  obtain ⟨earlier, last, hlast, happend⟩ := Text.exists_words_append front
  obtain ⟨more, hcommented⟩ := exists_words_commented hlast rest
  have hline := (happend ('/' :: '/' :: rest)).trans (congrArg (earlier ++ ·) hcommented)
  have hfront := (happend []).trans (congrArg (earlier ++ words ·) (List.append_nil last))
  rw [List.append_nil, Text.words_of_not_isBlank hlast] at hfront
  rcases earlier with _ | ⟨first, _ | ⟨second, earlier⟩⟩
  · refine .inl ?_
    have hslash : '/' ∉ "module".toList := by decide
    rw [declaredWord?_of_head_ne hline fun he => hslash (he ▸ by simp), declaredWord?, hfront]
    cases last <;> rfl
  · by_cases hfirst : first = "module".toList
    · rw [hfirst] at hline
      exact .inr ⟨_, _, hline, List.infix_append _ _ _⟩
    · exact .inl ((declaredWord?_of_head_ne hline hfirst).trans
        (declaredWord?_of_head_ne hfront hfirst).symm)
  · refine .inl ?_
    rw [declaredWord?, declaredWord?, hline, hfront]
    rfl

/-- A line declares the same as without its first comment if and only if the name that it declares
has no comment in it, which is so unless the comment is in its second word, behind the keyword. -/
theorem moduleOfLine?_uncommented_iff (line : Text) :
    (moduleOfLine? line = moduleOfLine? (uncommented line) ↔
      ∀ name, moduleOfLine? line = some name → ¬ "//".toList <:+: name) ∧
    (moduleOfLine? line = moduleOfLine? (uncommented line) ↔
      ∀ word rest, words line = "module".toList :: word :: rest → ¬ "//".toList <:+: word) := by
  have hname : (∀ name, moduleOfLine? line = some name → ¬ "//".toList <:+: name) ↔
      ∀ word rest, words line = "module".toList :: word :: rest → ¬ "//".toList <:+: word := by
    constructor
    · intro h word rest hwords hm
      exact h _ (moduleOfLine?_of_commented hwords hm) (infix_unquoted_iff.2 hm)
    · rintro h name hn hm
      obtain ⟨-, word, rest, hwords, rfl⟩ := moduleOfLine?_eq_some_iff.1 hn
      exact h word rest hwords (infix_unquoted_iff.1 hm)
  have hword : moduleOfLine? line = moduleOfLine? (uncommented line) ↔
      ∀ word rest, words line = "module".toList :: word :: rest → ¬ "//".toList <:+: word := by
    constructor
    · intro heq word rest hwords hm
      rw [moduleOfLine?_of_commented hwords hm] at heq
      obtain ⟨-, other, more, hothers, hunquoted⟩ := moduleOfLine?_eq_some_iff.1 heq.symm
      have hother : "//".toList <:+: other :=
        infix_unquoted_iff.1 (hunquoted ▸ infix_unquoted_iff.2 hm)
      refine not_infix_uncommented line (hother.trans (Text.infix_of_mem_words ?_))
      rw [hothers]
      exact List.mem_cons_of_mem _ List.mem_cons_self
    · intro h
      rcases eq_or_exists_uncommented line with heq | ⟨rest, hline⟩
      · rw [heq]
      · conv_lhs => rw [hline]
        rcases declaredWord?_append_comment (uncommented line) rest with
          heq | ⟨word, more, hwords, hm⟩
        · rw [moduleOfLine?_eq, moduleOfLine?_eq, heq]
        · rw [← hline] at hwords
          exact absurd hm (h word more hwords)
  exact ⟨hword.trans hname.symm, hword⟩

/-- Lines that declare more than they do without their comments: one has a comment in the place of
the name, and the other one right behind it. -/
theorem exists_module_with_comment :
    (∃ line, moduleOfLine? (uncommented line) = none ∧
      moduleOfLine? line = some "//".toList) ∧
    (∃ line, moduleOfLine? (uncommented line) = some "example.com/a".toList ∧
      moduleOfLine? line = some "example.com/a//b".toList) := by
  refine ⟨⟨"module // example.com/a".toList, ?_⟩, "module example.com/a//b c".toList, ?_⟩
  all_goals decide

end Manifest

end GoStubs
