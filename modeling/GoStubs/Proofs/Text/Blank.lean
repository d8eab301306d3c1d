import GoStubs.Text.Numeric
import GoStubs.Text.Blank

/-!
# Gaps

A gap is a text of blanks.  Trimming and collapsing take no notice of the gaps
at the ends of a text, and a collapsed text has none there.
-/

namespace GoStubs.Text

variable {text gap first last : Text} {c : Char}

/-- What holds of all characters of a text is decided along the text, never by trying all
characters. -/
instance (priority := high) decidableForallMem {p : Char → Prop} [DecidablePred p] (text : Text) :
    Decidable (∀ c ∈ text, p c) := List.decidableBAll p text

/-- A text of blanks, possibly of none. -/
abbrev IsGap (text : Text) : Prop := ∀ c ∈ text, isBlank c

theorem isWordChar_of_isBlank (h : isBlank c) : isWordChar c = false := by
  have hall : ∀ r ∈ blankRanges, ∀ n ∈ List.range' r.1 (r.2 + 1 - r.1),
      isWordChar (Char.ofNat n) = false := by decide +kernel
  obtain ⟨r, hr, hfirst, hlast⟩ := Ranges.has_iff.1 h
  have hn := hall r hr c.toNat (List.mem_range'.2 ⟨c.toNat - r.1, by omega, by omega⟩)
  rwa [Char.ofNat_toNat] at hn

theorem not_mem_of_isWordChar (h : ∀ d ∈ text, isWordChar d) (hc : isBlank c) : c ∉ text := by
  intro hm
  have hword := h c hm
  rw [isWordChar_of_isBlank hc] at hword
  cases hword

/-- A character that is not blank, where another one is. -/
theorem ne_of_isBlank {d : Char} (h : isBlank c) (hd : isBlank d = false) : c ≠ d := by
  rintro rfl
  simp [h] at hd

@[simp] theorem trimStart_nil : trimStart [] = [] := rfl

@[simp] theorem trimEnd_nil : trimEnd [] = [] := rfl

theorem trimStart_cons_of_isBlank (h : isBlank c) (text : Text) :
    trimStart (c :: text) = trimStart text := List.dropWhile_cons_of_pos h

theorem trimStart_cons (h : isBlank c = false) (text : Text) :
    trimStart (c :: text) = c :: text := List.dropWhile_cons_of_neg (by simp [h])

theorem trimStart_gap_append (h : IsGap gap) (text : Text) :
    trimStart (gap ++ text) = trimStart text := List.dropWhile_append_of_pos h

/-- No more is dropped than what stands in front of a character that stays. -/
theorem dropWhile_append_cons {p : Char → Bool} (h : p c = false) (first rest : Text) :
    (first ++ c :: rest).dropWhile p = first.dropWhile p ++ c :: rest := by
  rw [List.dropWhile_append]
  split
  · rename_i he
    rw [List.isEmpty_iff.1 he, List.dropWhile_cons_of_neg (by simp [h])]
    rfl
  · rfl

theorem dropEndWhile_append_cons {p : Char → Bool} (h : p c = false) (first rest : Text) :
    dropEndWhile p (first ++ c :: rest) = first ++ c :: dropEndWhile p rest := by
  rw [dropEndWhile, List.reverse_append, List.reverse_cons, List.append_assoc,
    List.singleton_append, dropWhile_append_cons h, List.reverse_append, List.reverse_cons,
    List.reverse_reverse, List.append_assoc, List.singleton_append]
  rfl

/-- The start of a text is trimmed before a character that is not blank. -/
theorem trimStart_append_cons (h : isBlank c = false) (first rest : Text) :
    trimStart (first ++ c :: rest) = trimStart first ++ c :: rest :=
  dropWhile_append_cons h first rest

theorem trimStart_gap (h : IsGap gap) : trimStart gap = [] := by
  simpa using trimStart_gap_append h []

theorem trimStart_eq_nil_iff : trimStart text = [] ↔ IsGap text := by
  refine ⟨fun h => ?_, trimStart_gap⟩
  induction text with
  | nil => simp [IsGap]
  | cons c rest ih =>
      cases hc : isBlank c
      · simp [trimStart_cons hc] at h
      · rw [trimStart_cons_of_isBlank hc] at h
        exact List.forall_mem_cons.2 ⟨hc, ih h⟩

theorem trimEnd_eq_nil_iff : trimEnd text = [] ↔ IsGap text := by
  rw [trimEnd, dropEndWhile, List.reverse_eq_nil_iff]
  change trimStart text.reverse = [] ↔ _
  simp [trimStart_eq_nil_iff, IsGap]

theorem trimEnd_append_gap (h : IsGap gap) (text : Text) :
    trimEnd (text ++ gap) = trimEnd text := by
  have hr : IsGap gap.reverse := fun c hc => h c (List.mem_reverse.1 hc)
  rw [trimEnd, trimEnd, dropEndWhile, dropEndWhile, List.reverse_append]
  exact congrArg List.reverse (trimStart_gap_append hr _)

theorem trimEnd_concat (h : isBlank c = false) (text : Text) :
    trimEnd (text ++ [c]) = text ++ [c] := by
  rw [trimEnd, dropEndWhile_concat, h]
  rfl

/-- The end of a text is trimmed within its last part, unless that is a gap. -/
theorem trimEnd_append (h : ¬ IsGap last) (first : Text) :
    trimEnd (first ++ last) = first ++ trimEnd last := by
  have hne : last.reverse.dropWhile isBlank ≠ [] := by
    intro he
    exact h (trimEnd_eq_nil_iff.1 (by rw [trimEnd, dropEndWhile, he, List.reverse_nil]))
  rw [trimEnd, trimEnd, dropEndWhile, dropEndWhile, List.reverse_append, List.dropWhile_append,
    if_neg (by simpa using hne)]
  simp

theorem trimEnd_cons (h : isBlank c = false) (text : Text) :
    trimEnd (c :: text) = c :: trimEnd text := by
  by_cases hg : IsGap text
  · rw [trimEnd_eq_nil_iff.2 hg]
    have hc := trimEnd_append_gap hg [c]
    rwa [show trimEnd [c] = [c] from trimEnd_concat h []] at hc
  · exact trimEnd_append hg [c]

theorem trim_gap_append (h : IsGap gap) (text : Text) : trim (gap ++ text) = trim text := by
  rw [trim, trim, trimStart_gap_append h]

theorem trim_append_gap (h : IsGap gap) (text : Text) : trim (text ++ gap) = trim text := by
  by_cases ht : IsGap text
  · rw [trim_gap_append ht, trim, trim, trimStart_gap h, trimStart_gap ht]
  · have hne : trimStart text ≠ [] := fun he => ht (trimStart_eq_nil_iff.1 he)
    have hs : trimStart (text ++ gap) = trimStart text ++ gap := by
      rw [trimStart, List.dropWhile_append, if_neg (by simpa [trimStart] using hne), trimStart]
    rw [trim, trim, hs, trimEnd_append_gap h]

theorem not_isBlank_of_trimStart {rest : Text} (h : trimStart text = c :: rest) :
    isBlank c = false := by
  have hc := List.head?_dropWhile_not isBlank text
  rw [show text.dropWhile isBlank = c :: rest from h] at hc
  simpa using hc

@[simp] theorem trimStart_trimStart (text : Text) :
    trimStart (trimStart text) = trimStart text := by
  cases hs : trimStart text with
  | nil => rfl
  | cons c rest => exact trimStart_cons (not_isBlank_of_trimStart hs) rest

/-- What is dropped at the end of a text. -/
theorem exists_append_dropEndWhile (drop : Char → Bool) (text : Text) :
    ∃ dropped, (∀ c ∈ dropped, drop c) ∧ text = dropEndWhile drop text ++ dropped := by
  refine ⟨(text.reverse.takeWhile drop).reverse, fun c hc => ?_, ?_⟩
  · exact List.all_eq_true.1 List.all_takeWhile c (List.mem_reverse.1 hc)
  · rw [dropEndWhile, ← List.reverse_append, List.takeWhile_append_dropWhile, List.reverse_reverse]

theorem exists_gap_trimStart (text : Text) : ∃ gap, IsGap gap ∧ text = gap ++ trimStart text :=
  ⟨text.takeWhile isBlank, List.all_eq_true.1 List.all_takeWhile,
    List.takeWhile_append_dropWhile.symm⟩

theorem exists_gap_trimEnd (text : Text) : ∃ gap, IsGap gap ∧ text = trimEnd text ++ gap :=
  exists_append_dropEndWhile isBlank text

@[simp] theorem trim_trim (text : Text) : trim (trim text) = trim text := by
  obtain ⟨gap, hg, hgap⟩ := exists_gap_trimEnd (trimStart text)
  calc
    trim (trim text) = trim (trimEnd (trimStart text) ++ gap) := (trim_append_gap hg _).symm
    _ = trim (trimStart text) := by rw [← hgap]
    _ = trim text := by rw [trim, trimStart_trimStart, trim]

theorem trim_eq_nil_iff : trim text = [] ↔ IsGap text := by
  constructor
  · intro h
    rw [trim, trimEnd_eq_nil_iff] at h
    rw [← trimStart_eq_nil_iff]
    cases hs : trimStart text with
    | nil => rfl
    | cons c rest =>
        have hb := h c (by simp [hs])
        simp [not_isBlank_of_trimStart hs] at hb
  · intro h
    rw [trim, trimStart_gap h, trimEnd_nil]

/-- Trimming, where it starts with a character that stays. -/
theorem trim_cons (h : isBlank c = false) (text : Text) : trim (c :: text) = c :: trimEnd text := by
  rw [trim, trimStart_cons h, trimEnd_cons h]

theorem trim_between {before after : Text} (hb : IsGap before) (ha : IsGap after)
    (h : trim text = text) : trim (before ++ text ++ after) = text := by
  rw [trim_append_gap ha, trim_gap_append hb, h]

theorem trimStart_of_trim (h : trim text = text) : trimStart text = text := by
  have hsuffix : trimStart text <:+ text := List.dropWhile_suffix isBlank
  have hprefix : trim text <+: trimStart text := dropEndWhile_prefix isBlank _
  rw [h] at hprefix
  exact hsuffix.eq_of_length (Nat.le_antisymm hsuffix.length_le hprefix.length_le)

/-- A trimmed text starts with a character that is not blank. -/
theorem not_isBlank_of_trim (h : trim (c :: text) = c :: text) : isBlank c = false := by
  cases hc : isBlank c with
  | false => rfl
  | true =>
      have hs := trimStart_of_trim h
      rw [trimStart_cons_of_isBlank hc] at hs
      have hl : (trimStart text).length ≤ text.length := (List.dropWhile_suffix isBlank).length_le
      rw [hs, List.length_cons] at hl
      omega

theorem not_isBlank_of_mem_words {word : Text} (h : word ∈ words text) (hc : c ∈ word) :
    isBlank c = false := not_cut_of_mem_split (List.mem_filter.1 h).1 hc

theorem trimStart_of_not_isBlank (h : ∀ c ∈ text, isBlank c = false) : trimStart text = text := by
  cases text with
  | nil => rfl
  | cons c rest => exact trimStart_cons (h c List.mem_cons_self) rest

theorem trimEnd_of_not_isBlank (h : ∀ c ∈ text, isBlank c = false) : trimEnd text = text := by
  rcases List.eq_nil_or_concat text with rfl | ⟨front, c, rfl⟩
  · rfl
  · rw [List.concat_eq_append]
    exact trimEnd_concat (h c (by simp)) front

theorem trimEnd_intercalate {list : List Text}
    (h : ∀ word ∈ list, word ≠ [] ∧ ∀ c ∈ word, isBlank c = false) :
    trimEnd ([' '].intercalate list) = [' '].intercalate list := by
  induction list with
  | nil => rfl
  | cons word rest ih =>
      obtain ⟨hw, hrest⟩ := List.forall_mem_cons.1 h
      cases rest with
      | nil => simpa using trimEnd_of_not_isBlank hw.2
      | cons next rest =>
          have hnext := hrest next List.mem_cons_self
          have hgap : ¬ IsGap ([' '].intercalate (next :: rest)) := by
            obtain ⟨c, tail, rfl⟩ := List.exists_cons_of_ne_nil hnext.1
            intro hg
            have hc := hg c (by simp)
            simp [hnext.2 c List.mem_cons_self] at hc
          rw [List.intercalate_cons_cons, trimEnd_append hgap, ih hrest]

@[simp] theorem trim_collapse (text : Text) : trim (collapse text) = collapse text := by
  have hwords : ∀ word ∈ words text, word ≠ [] ∧ ∀ c ∈ word, isBlank c = false :=
    fun word hw => ⟨ne_nil_of_mem_words hw, fun c => not_isBlank_of_mem_words hw⟩
  rw [trim, collapse]
  cases hl : words text with
  | nil => rfl
  | cons word rest =>
      rw [hl] at hwords
      obtain ⟨hne, hword⟩ := hwords word List.mem_cons_self
      obtain ⟨c, tail, rfl⟩ := List.exists_cons_of_ne_nil hne
      have hs : trimStart ([' '].intercalate ((c :: tail) :: rest)) =
          [' '].intercalate ((c :: tail) :: rest) := by
        rw [List.intercalate_cons_cons_left, trimStart_cons (hword c List.mem_cons_self)]
      rw [hs, trimEnd_intercalate hwords]

/-! ### Characters that are not blank -/

/-- The characters of a text that are not blank. -/
def ink (text : Text) : Text := text.filter (! isBlank ·)

theorem ink_append (a b : Text) : ink (a ++ b) = ink a ++ ink b := List.filter_append ..

theorem ink_eq_nil_iff : ink text = [] ↔ IsGap text := by
  simp [ink, IsGap, List.filter_eq_nil_iff]

theorem ink_trimStart (text : Text) : ink (trimStart text) = ink text := by
  obtain ⟨gap, hg, htext⟩ := exists_gap_trimStart text
  calc
    ink (trimStart text) = ink (gap ++ trimStart text) := by
      rw [ink_append, ink_eq_nil_iff.2 hg, List.nil_append]
    _ = ink text := by rw [← htext]

theorem ink_trim (text : Text) : ink (trim text) = ink text := by
  obtain ⟨gap, hg, htext⟩ := exists_gap_trimEnd (trimStart text)
  calc
    ink (trim text) = ink (trimEnd (trimStart text) ++ gap) := by
      rw [ink_append, ink_eq_nil_iff.2 hg, List.append_nil, trim]
    _ = ink text := by rw [← htext, ink_trimStart]

end GoStubs.Text
