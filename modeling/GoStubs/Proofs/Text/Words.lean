import GoStubs.Proofs.Text.Respacing

/-!
# Words of a text

The words of a text come off its front one by one.  Where a text ends within a word, what follows
goes on with this word and leaves the ones in front of it as they are.
-/

namespace GoStubs.Text

variable {text word : Text} {c : Char}

theorem getLast?_dropEndWhile {α : Type} (drop : α → Bool) (list : List α) :
    ∀ last ∈ (dropEndWhile drop list).getLast?, drop last = false := by
  intro last hl
  have hhead := List.head?_dropWhile_not drop list.reverse
  rw [Option.mem_def, dropEndWhile, List.getLast?_reverse] at hl
  rw [hl] at hhead
  simpa using hhead

/-- A piece is a part of the list, and the first one is at its start. -/
theorem infix_of_mem_split {α : Type} {cut : α → Bool} {list piece : List α}
    (h : piece ∈ split cut list) : piece <:+: list := by
  suffices hpieces : ∃ first pieces, split cut list = first :: pieces ∧ first <+: list ∧
      ∀ piece ∈ pieces, piece <:+: list by
    obtain ⟨first, pieces, hsplit, hfirst, hrest⟩ := hpieces
    rw [hsplit] at h
    rcases List.mem_cons.1 h with rfl | h
    · exact hfirst.isInfix
    · exact hrest piece h
  clear h
  induction list with
  | nil => exact ⟨[], [], rfl, List.prefix_rfl, List.forall_mem_nil _⟩
  | cons c list ih =>
      obtain ⟨first, pieces, hsplit, hfirst, hrest⟩ := ih
      have hlonger {piece : List α} (hp : piece <:+: list) : piece <:+: c :: list :=
        hp.trans (List.suffix_cons c list).isInfix
      cases hc : cut c with
      | true =>
          refine ⟨[], first :: pieces, ?_, List.nil_prefix, ?_⟩
          · rw [split_cons_of_cut hc, hsplit]
          · exact List.forall_mem_cons.2 ⟨hlonger hfirst.isInfix, fun p hp => hlonger (hrest p hp)⟩
      | false =>
          refine ⟨c :: first, pieces, by simp [split, hc, hsplit],
            (List.prefix_cons_inj c).2 hfirst, fun p hp => hlonger (hrest p hp)⟩

theorem infix_of_mem_words (h : word ∈ words text) : word <:+: text :=
  infix_of_mem_split (List.mem_filter.1 h).1

theorem not_isBlank_of_mem_takeWhile (h : c ∈ text.takeWhile (! isBlank ·)) :
    isBlank c = false := by
  simpa using List.all_eq_true.1 List.all_takeWhile c h

/-- A word ends at a blank. -/
theorem isBlank_of_head?_dropWhile (h : c ∈ (text.dropWhile (! isBlank ·)).head?) :
    isBlank c := by
  have hdropped := List.head?_dropWhile_not (! isBlank ·) text
  rw [Option.mem_def.1 h] at hdropped
  simpa using hdropped

theorem words_of_not_isBlank (hw : ∀ c ∈ word, isBlank c = false) :
    words word = if word.isEmpty then [] else [word] := by
  rw [words, split_of_not_cut hw]
  cases word <;> rfl

theorem words_word_append (hw : ∀ c ∈ word, isBlank c = false) (hne : word ≠ []) {rest : Text}
    (hr : ∀ c ∈ rest.head?, isBlank c) : words (word ++ rest) = word :: words rest := by
  have hword : words word = [word] := by
    rw [words_of_not_isBlank hw, if_neg (by simpa using hne)]
  cases rest with
  | nil =>
      rw [List.append_nil, hword]
      rfl
  | cons c rest =>
      have hc : isBlank c := hr c rfl
      rw [words_append_cons hc, hword, ← List.nil_append (c :: rest), words_append_cons hc]
      rfl

theorem words_cons (hc : isBlank c = false) (text : Text) :
    words (c :: text) = (c :: text).takeWhile (! isBlank ·) ::
      words ((c :: text).dropWhile (! isBlank ·)) := by
  rw [← words_word_append (fun _ => not_isBlank_of_mem_takeWhile) (by simp [hc])
    (fun _ => isBlank_of_head?_dropWhile), List.takeWhile_append_dropWhile]

theorem words_trimStart (text : Text) : words (trimStart text) = words text := by
  obtain ⟨gap, hgap, htext⟩ := exists_gap_trimStart text
  have hwords := words_gap_append hgap (trimStart text)
  rw [← htext] at hwords
  exact hwords.symm

theorem head?_words (text : Text) : (words text).head? =
    if (trimStart text).isEmpty then none
    else some ((trimStart text).takeWhile (! isBlank ·)) := by
  rw [← words_trimStart]
  cases ht : trimStart text with
  | nil => rfl
  | cons c rest =>
      rw [words_cons (not_isBlank_of_trimStart ht)]
      rfl

/-- The first word of a text stands at its start, less the gap there. -/
theorem exists_of_words_eq_cons {more : List Text} (h : words text = word :: more) :
    ∃ rest, trimStart text = word ++ rest ∧ ∀ c ∈ rest.head?, isBlank c := by
  have hhead := head?_words text
  rw [h, List.head?_cons] at hhead
  split at hhead
  · cases hhead
  · cases hhead
    exact ⟨_, List.takeWhile_append_dropWhile.symm, fun _ => isBlank_of_head?_dropWhile⟩

/-- What follows a text goes on with the last word of the text, if there is no blank at its end. -/
theorem exists_words_append (text : Text) :
    ∃ earlier : List Text, ∃ last : Text, (∀ c ∈ last, isBlank c = false) ∧
      ∀ rest, words (text ++ rest) = earlier ++ words (last ++ rest) := by
  obtain ⟨last, hlast, htext⟩ := exists_append_dropEndWhile (! isBlank ·) text
  have hword : ∀ c ∈ last, isBlank c = false := fun c hc => by simpa using hlast c hc
  have hend := getLast?_dropEndWhile (! isBlank ·) text
  rcases List.eq_nil_or_concat (dropEndWhile (! isBlank ·) text) with hnil | ⟨front, b, hfront⟩
  · rw [hnil, List.nil_append] at htext
    exact ⟨[], last, hword, fun rest => by rw [htext]; rfl⟩
  · rw [hfront, List.concat_eq_append] at htext hend
    have hb : isBlank b := by simpa using hend b (by simp)
    refine ⟨words front, last, hword, fun rest => ?_⟩
    rw [htext, List.append_assoc, List.append_assoc]
    exact words_append_cons hb front (last ++ rest)

end GoStubs.Text
