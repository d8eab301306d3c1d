import GoStubs.Proofs.Text.Blank

/-!
# Texts that differ in their gaps

Two texts are respaced if one turns into the other when nonempty gaps take the
place of nonempty gaps.  Such texts have the same words, and cutting or trimming
them gives respaced texts again.  A trimmed text and its collapsed form are
respaced.
-/

namespace GoStubs.Text

variable {a b a' b' text gap : Text} {c : Char}

/-- Equality of texts up to the lengths and the characters of their gaps. -/
inductive Respaced : Text → Text → Prop
  | nil : Respaced [] []
  | char {c : Char} {a b : Text} (not_isBlank : isBlank c = false) (rest : Respaced a b) :
      Respaced (c :: a) (c :: b)
  | gap {g h a b : Text} (g_ne_nil : g ≠ []) (h_ne_nil : h ≠ []) (g_isGap : IsGap g)
      (h_isGap : IsGap h) (rest : Respaced a b) : Respaced (g ++ a) (h ++ b)

namespace Respaced

theorem refl (text : Text) : Respaced text text := by
  induction text with
  | nil => exact .nil
  | cons c text ih =>
      cases hc : isBlank c with
      | false => exact .char hc ih
      | true =>
          have hg : IsGap [c] := by simpa [IsGap] using hc
          exact .gap (List.cons_ne_nil c []) (List.cons_ne_nil c []) hg hg ih

theorem symm (h : Respaced a b) : Respaced b a := by
  induction h with
  | nil => exact .nil
  | char hc _ ih => exact .char hc ih
  | gap hg hh hgs hhs _ ih => exact .gap hh hg hhs hgs ih

theorem append (h : Respaced a b) (h' : Respaced a' b') : Respaced (a ++ a') (b ++ b') := by
  induction h with
  | nil => exact h'
  | char hc _ ih => exact .char hc ih
  | gap hg hh hgs hhs _ ih =>
      rw [List.append_assoc, List.append_assoc]
      exact .gap hg hh hgs hhs ih

theorem gap_gap {g h : Text} (hg : g ≠ []) (hh : h ≠ []) (hgs : IsGap g) (hhs : IsGap h) :
    Respaced g h := by simpa using Respaced.gap hg hh hgs hhs .nil

theorem reverse (h : Respaced a b) : Respaced a.reverse b.reverse := by
  induction h with
  | nil => exact .nil
  | @char c a b hc _ ih =>
      rw [List.reverse_cons, List.reverse_cons]
      exact ih.append (.char hc .nil)
  | @gap g h a b hg hh hgs hhs _ ih =>
      rw [List.reverse_append, List.reverse_append]
      refine ih.append (gap_gap (by simpa using hg) (by simpa using hh) ?_ ?_)
      · exact fun c hc => hgs c (List.mem_reverse.1 hc)
      · exact fun c hc => hhs c (List.mem_reverse.1 hc)

theorem eq_nil_iff (h : Respaced a b) : a = [] ↔ b = [] := by
  cases h with
  | nil => simp
  | char => simp
  | gap hg hh => simp [hg, hh]

theorem isEmpty_eq (h : Respaced a b) : a.isEmpty = b.isEmpty := by
  rw [Bool.eq_iff_iff, List.isEmpty_iff, List.isEmpty_iff, h.eq_nil_iff]

/-- Only gaps tell respaced texts apart. -/
theorem eq_of_not_isBlank (h : Respaced a b) (ha : ∀ c ∈ a, isBlank c = false) : a = b := by
  induction h with
  | nil => rfl
  | char _ _ ih => rw [ih (List.forall_mem_cons.1 ha).2]
  | @gap g h a b hg _ hgs _ _ _ =>
      obtain ⟨c, g, rfl⟩ := List.exists_cons_of_ne_nil hg
      have hc := hgs c List.mem_cons_self
      simp [ha c (by simp)] at hc

/-- A text that starts with a blank and one with a further blank in front. -/
theorem cons_gap (h : Respaced (gap ++ a) b) (hne : gap ≠ []) (hg : IsGap gap)
    (hc : isBlank c) : Respaced (c :: (gap ++ a)) b := by
  obtain ⟨d, gap, rfl⟩ := List.exists_cons_of_ne_nil hne
  have hd := hg d List.mem_cons_self
  generalize ht : d :: gap ++ a = text at h
  cases h with
  | nil => simp at ht
  | char hb =>
      rw [List.cons_append, List.cons.injEq] at ht
      simp [← ht.1, hd] at hb
  | @gap g h a b hne hh hgs hhs rest =>
      exact .gap (List.cons_ne_nil c g) hh (List.forall_mem_cons.2 ⟨hc, hgs⟩) hhs rest

/-- Respaced texts are both empty, or they both start with a character that is not blank, or
neither of them does. -/
theorem head_cases {d : Char} (hd : isBlank d = false) (h : Respaced a b) :
    (a = [] ∧ b = []) ∨
      (∃ a' b', a = d :: a' ∧ b = d :: b' ∧ Respaced a' b') ∨
      ∃ c c' a' b', a = c :: a' ∧ b = c' :: b' ∧ c ≠ d ∧ c' ≠ d := by
  cases h with
  | nil => exact .inl ⟨rfl, rfl⟩
  | @char c a b _ rest =>
      by_cases hc : c = d
      · subst hc
        exact .inr (.inl ⟨a, b, rfl, rfl, rest⟩)
      · exact .inr (.inr ⟨c, c, a, b, rfl, rfl, hc, hc⟩)
  | @gap g h a b hg hh hgs hhs _ =>
      obtain ⟨c, g, rfl⟩ := List.exists_cons_of_ne_nil hg
      obtain ⟨c', h, rfl⟩ := List.exists_cons_of_ne_nil hh
      have hc := ne_of_isBlank (hgs c List.mem_cons_self) hd
      have hc' := ne_of_isBlank (hhs c' List.mem_cons_self) hd
      exact .inr (.inr ⟨c, c', g ++ a, h ++ b, rfl, rfl, hc, hc'⟩)

/-! ### Cutting and trimming -/

theorem trimStart (h : Respaced a b) : Respaced (trimStart a) (trimStart b) := by
  induction h with
  | nil => exact .nil
  | char hc rest _ =>
      rw [trimStart_cons hc, trimStart_cons hc]
      exact .char hc rest
  | gap _ _ hgs hhs _ ih =>
      rw [trimStart_gap_append hgs, trimStart_gap_append hhs]
      exact ih

theorem trimEnd (h : Respaced a b) : Respaced (trimEnd a) (trimEnd b) := h.reverse.trimStart.reverse

theorem trim (h : Respaced a b) : Respaced (trim a) (trim b) := h.trimStart.trimEnd

section

variable {keep : Char → Bool} (hk : ∀ c, isBlank c → keep c = false)

include hk

theorem takeWhile_eq (h : Respaced a b) : a.takeWhile keep = b.takeWhile keep := by
  induction h with
  | nil => rfl
  | @char c a b _ _ ih =>
      rw [List.takeWhile_cons, List.takeWhile_cons, ih]
  | @gap g h a b hg hh hgs hhs _ _ =>
      obtain ⟨c, g, rfl⟩ := List.exists_cons_of_ne_nil hg
      obtain ⟨d, h, rfl⟩ := List.exists_cons_of_ne_nil hh
      rw [List.cons_append, List.cons_append, List.takeWhile_cons, List.takeWhile_cons,
        hk c (hgs c List.mem_cons_self), hk d (hhs d List.mem_cons_self)]
      rfl

theorem dropWhile (h : Respaced a b) : Respaced (a.dropWhile keep) (b.dropWhile keep) := by
  induction h with
  | nil => exact .nil
  | @char c a b hc rest ih =>
      rw [List.dropWhile_cons, List.dropWhile_cons]
      split
      · exact ih
      · exact .char hc rest
  | @gap g h a b hg hh hgs hhs rest _ =>
      have hstay {gap : Text} (hne : gap ≠ []) (hgap : IsGap gap) (text : Text) :
          (gap ++ text).dropWhile keep = gap ++ text := by
        obtain ⟨c, gap, rfl⟩ := List.exists_cons_of_ne_nil hne
        exact List.dropWhile_cons_of_neg (by simp [hk c (hgap c List.mem_cons_self)])
      rw [hstay hg hgs, hstay hh hhs]
      exact .gap hg hh hgs hhs rest

end

theorem isPrefixOf_eq {part : Text} (hp : ∀ c ∈ part, isBlank c = false) (h : Respaced a b) :
    part.isPrefixOf a = part.isPrefixOf b := by
  have hgap {gap : Text} {d : Char} (hne : gap ≠ []) (hg : IsGap gap) (hd : isBlank d = false)
      (part text : Text) : (d :: part).isPrefixOf (gap ++ text) = false := by
    obtain ⟨c, gap, rfl⟩ := List.exists_cons_of_ne_nil hne
    have hne := ne_of_isBlank (hg c List.mem_cons_self) hd
    simp [List.isPrefixOf, hne.symm]
  induction part generalizing a b with
  | nil => rfl
  | cons d part ih =>
      obtain ⟨hd, hpart⟩ := List.forall_mem_cons.1 hp
      cases h with
      | nil => rfl
      | char _ rest => rw [List.isPrefixOf, List.isPrefixOf, ih hpart rest]
      | gap hg hh hgs hhs => rw [hgap hg hgs hd, hgap hh hhs hd]

/-! ### Cuts in two -/

def Pair (first second : Text × Text) : Prop :=
  Respaced first.1 second.1 ∧ Respaced first.2 second.2

theorem pair_map_append {x y : Option (Text × Text)} (h : Respaced a b)
    (hxy : Option.Rel Pair x y) :
    Option.Rel Pair (x.map fun (before, after) => (a ++ before, after))
      (y.map fun (before, after) => (b ++ before, after)) := by
  cases hxy with
  | none => exact .none
  | some hp => exact .some ⟨h.append hp.1, hp.2⟩

theorem breakAt?_pair {d : Char} {part : Text} (hd : isBlank d = false)
    (hp : ∀ c ∈ part, isBlank c = false) (h : Respaced a b) :
    Option.Rel Pair (breakAt? (d :: part) a) (breakAt? (d :: part) b) := by
  have hgap {gap : Text} (hg : IsGap gap) (text : Text) :
      breakAt? (d :: part) (gap ++ text) =
        (breakAt? (d :: part) text).map fun (before, after) => (gap ++ before, after) := by
    induction gap with
    | nil => simp
    | cons c gap ih =>
        obtain ⟨hc, hg⟩ := List.forall_mem_cons.1 hg
        have hne : (d :: part).isPrefixOf (c :: (gap ++ text)) = false := by
          simp [List.isPrefixOf, (ne_of_isBlank hc hd).symm]
        rw [List.cons_append, breakAt?, hne, ih hg]
        simp [Function.comp_def]
  induction h with
  | nil => exact .none
  | @char c a b hc rest ih =>
      have hprefix := isPrefixOf_eq (List.forall_mem_cons.2 ⟨hd, hp⟩) (Respaced.char hc rest)
      rw [breakAt?, breakAt?, hprefix]
      split
      · exact .some ⟨.nil, .char hc rest⟩
      · exact pair_map_append (.char hc .nil) ih
  | gap hg hh hgs hhs _ ih =>
      rw [hgap hgs, hgap hhs]
      exact pair_map_append (gap_gap hg hh hgs hhs) ih

end Respaced

/-! ### Words -/

theorem words_gap_append (h : IsGap gap) (text : Text) : words (gap ++ text) = words text := by
  induction gap with
  | nil => rfl
  | cons c gap ih =>
      obtain ⟨hc, hgap⟩ := List.forall_mem_cons.1 h
      rw [← ih hgap, words, List.cons_append, split_cons_of_cut hc]
      rfl

theorem words_append_cons (hc : isBlank c) (first last : Text) :
    words (first ++ c :: last) = words first ++ words last := by
  rw [words, words, words, split_append_cons hc, List.filter_append]

theorem Respaced.words_eq (h : Respaced a b) : words a = words b := by
  -- The first pieces are equal, and so are the words of the pieces behind them.
  have hsplit : ∃ piece pieces others, split isBlank a = piece :: pieces ∧
      split isBlank b = piece :: others ∧
      pieces.filter (! ·.isEmpty) = others.filter (! ·.isEmpty) := by
    induction h with
    | nil => exact ⟨[], [], [], rfl, rfl, rfl⟩
    | @char c a b hc _ ih =>
        obtain ⟨piece, pieces, others, ha, hb, hrest⟩ := ih
        exact ⟨c :: piece, pieces, others, by simp [split, hc, ha], by simp [split, hc, hb], hrest⟩
    | @gap g h a b hg hh hgs hhs _ ih =>
        obtain ⟨piece, pieces, others, ha, hb, hrest⟩ := ih
        obtain ⟨c, g, rfl⟩ := List.exists_cons_of_ne_nil hg
        obtain ⟨d, h, rfl⟩ := List.exists_cons_of_ne_nil hh
        obtain ⟨hc, hgs⟩ := List.forall_mem_cons.1 hgs
        obtain ⟨hd, hhs⟩ := List.forall_mem_cons.1 hhs
        refine ⟨[], _, _, split_cons_of_cut hc _, split_cons_of_cut hd _, ?_⟩
        change words (g ++ a) = words (h ++ b)
        rw [words_gap_append hgs, words_gap_append hhs, words, words, ha, hb,
          List.filter_cons, List.filter_cons, hrest]
  obtain ⟨piece, pieces, others, ha, hb, hrest⟩ := hsplit
  rw [words, words, ha, hb, List.filter_cons, List.filter_cons, hrest]

theorem Respaced.collapse_eq (h : Respaced a b) : collapse a = collapse b := by
  rw [collapse, collapse, h.words_eq]

theorem words_eq_nil_iff : words text = [] ↔ IsGap text := by
  constructor
  · intro h
    induction text with
    | nil => simp [IsGap]
    | cons c text ih =>
        cases hc : isBlank c with
        | true =>
            have hone : IsGap [c] := by simpa [IsGap] using hc
            have hwords : words (c :: text) = words text := words_gap_append hone text
            exact List.forall_mem_cons.2 ⟨hc, ih (hwords ▸ h)⟩
        | false =>
            cases hs : split isBlank text with
            | nil => exact absurd hs (split_ne_nil _ _)
            | cons piece pieces => simp [words, split, hc, hs] at h
  · intro h
    have hwords := words_gap_append h []
    rwa [List.append_nil] at hwords

theorem collapse_append_gap (h : IsGap gap) (text : Text) :
    collapse (text ++ gap) = collapse text := by
  cases gap with
  | nil => rw [List.append_nil]
  | cons c gap =>
      obtain ⟨hc, hg⟩ := List.forall_mem_cons.1 h
      rw [collapse, collapse, words_append_cons hc, words_eq_nil_iff.2 hg, List.append_nil]

/-- The space in front of words that come after a blank. -/
def leadingSpace (text : Text) : Text :=
  if text.head?.any isBlank && !(words text).isEmpty then [' '] else []

theorem collapse_cons (hc : isBlank c = false) (text : Text) :
    collapse (c :: text) = c :: (leadingSpace text ++ collapse text) := by
  cases hs : split isBlank text with
  | nil => exact absurd hs (split_ne_nil _ _)
  | cons piece pieces =>
      have hwords : words (c :: text) = (c :: piece) :: pieces.filter (! ·.isEmpty) := by
        simp [words, split, hc, hs]
      have htext : words text = [piece].filter (! ·.isEmpty) ++ pieces.filter (! ·.isEmpty) := by
        rw [words, hs, ← List.filter_append, List.singleton_append]
      rw [collapse, hwords, List.intercalate_cons_cons_left, leadingSpace, collapse, htext]
      cases text with
      | nil =>
          cases hs
          rfl
      | cons d rest =>
          cases hd : isBlank d with
          | true =>
              -- The first piece is empty, and the words are those of the other pieces.
              rw [split_cons_of_cut hd, List.cons.injEq] at hs
              obtain ⟨rfl, rfl⟩ := hs
              cases hf : (split isBlank rest).filter (! ·.isEmpty) <;> simp [hd]
          | false =>
              have hne : piece ≠ [] := by
                rintro rfl
                cases hr : split isBlank rest <;> simp [split, hd, hr] at hs
              simp [hd, hne]

theorem leadingSpace_cons (hc : isBlank c = false) (text : Text) :
    leadingSpace (c :: text) = [] := by
  simp [leadingSpace, hc]

theorem leadingSpace_cons_of_isBlank (hc : isBlank c) (ht : ¬ IsGap text) :
    leadingSpace (c :: text) = [' '] := by
  have hone : IsGap [c] := by simpa [IsGap] using hc
  have hwords : words (c :: text) = words text := words_gap_append hone text
  have hne : words text ≠ [] := fun he => ht (words_eq_nil_iff.1 he)
  rw [leadingSpace, hwords]
  simp [hc, hne]

/-- A text without the gap at its end, and its words with a space where it starts with a gap. -/
theorem respaced_trimEnd (text : Text) :
    Respaced (trimEnd text) (leadingSpace text ++ collapse text) := by
  induction text with
  | nil => exact .nil
  | cons c text ih =>
      cases hc : isBlank c with
      | false =>
          rw [trimEnd_cons hc, leadingSpace_cons hc, collapse_cons hc]
          exact .char hc ih
      | true =>
          have hone : IsGap [c] := by simpa [IsGap] using hc
          have hcollapse : collapse (c :: text) = collapse text := by
            rw [collapse, collapse, ← words_gap_append hone text, List.singleton_append]
          by_cases hg : IsGap text
          · have hall : IsGap (c :: text) := List.forall_mem_cons.2 ⟨hc, hg⟩
            rw [trimEnd_eq_nil_iff.2 hall, collapse, leadingSpace, words_eq_nil_iff.2 hall]
            simpa using Respaced.nil
          · have htrim : trimEnd (c :: text) = c :: trimEnd text := trimEnd_append hg [c]
            rw [leadingSpace_cons_of_isBlank hc hg, hcollapse, htrim]
            obtain ⟨d, rest, rfl⟩ := List.exists_cons_of_ne_nil (l := text) fun he => by
              simp [he, IsGap] at hg
            cases hd : isBlank d with
            | true =>
                have hrest : ¬ IsGap rest := fun hr => hg (List.forall_mem_cons.2 ⟨hd, hr⟩)
                have htail : trimEnd (d :: rest) = [d] ++ trimEnd rest := trimEnd_append hrest [d]
                rw [htail, leadingSpace_cons_of_isBlank hd hrest] at ih
                rw [htail]
                exact ih.cons_gap (List.cons_ne_nil d []) (by simpa [IsGap] using hd) hc
            | false =>
                rw [leadingSpace_cons hd] at ih
                exact .gap (List.cons_ne_nil c []) (List.cons_ne_nil ' ' []) hone (by decide) ih

/-- Trimming and collapsing a text differ in gaps only. -/
theorem respaced_collapse (text : Text) : Respaced (trim text) (collapse text) := by
  have hlead : leadingSpace (trimStart text) = [] := by
    cases hs : trimStart text with
    | nil => rfl
    | cons c rest => exact leadingSpace_cons (not_isBlank_of_trimStart hs) rest
  have hwords : words (trimStart text) = words text := by
    conv => rhs; rw [← List.takeWhile_append_dropWhile (p := isBlank) (l := text)]
    exact (words_gap_append (fun c hc => List.all_eq_true.1 List.all_takeWhile c hc) _).symm
  have htrimmed := respaced_trimEnd (trimStart text)
  rwa [hlead, List.nil_append, collapse, hwords] at htrimmed

theorem Respaced.ink_eq (h : Respaced a b) : ink a = ink b := by
  induction h with
  | nil => rfl
  | char hc _ ih => simpa [ink, hc] using ih
  | gap _ _ hgs hhs _ ih =>
      rw [ink_append, ink_append, ink_eq_nil_iff.2 hgs, ink_eq_nil_iff.2 hhs, ih]

theorem ink_collapse (text : Text) : ink (collapse text) = ink text := by
  rw [← (respaced_collapse text).ink_eq, ink_trim]

theorem collapse_eq_nil_iff : collapse text = [] ↔ IsGap text := by
  rw [← (respaced_collapse text).eq_nil_iff, trim_eq_nil_iff]

/-- Only a gap can be added at the end of a text and not show when it is collapsed. -/
theorem isGap_of_collapse_append (h : collapse (a ++ b) = collapse a) : IsGap b := by
  have hink := congrArg ink h
  rw [ink_collapse, ink_collapse, ink_append, List.append_right_eq_self] at hink
  exact ink_eq_nil_iff.1 hink

end GoStubs.Text
